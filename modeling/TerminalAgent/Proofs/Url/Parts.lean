import Mathlib.Data.String.Basic
import TerminalAgent.Url.Parse

/-! # What the parts of a path are made of

Every part of the path of a URL is empty or the escape of a stretch of the text in which no slash is. So
what is true of such escapes is true of every part, whichever way the text is read.
-/

namespace TerminalAgent.Url

/-- What holds of texts and of the parts that they give a path. -/
structure PartLaw (Text : List Char → Prop) (Part : String → Prop) : Prop where
  /-- A part comes from a stretch of the text. -/
  stretch {s t : List Char} (sub : t.Sublist s) (text : Text s) : Text t
  /-- A bar behind the letter of a drive stands for a colon. -/
  drive {letter : Char} (isLetter : letter.isAlpha = true) (text : Text [letter, '|']) : Text [letter, ':']
  empty : Part ""
  escaped {s : List Char} (noSlash : '/' ∉ s) (text : Text s) : Part (escape escapedInPath (String.ofList s))

/-- Every part of the path has the property. -/
def Path.Each (Part : String → Prop) : Path → Prop
  | .opaque_ _ => True
  | .segments parts => ∀ part ∈ parts, Part part

variable {Text : List Char → Prop} {Part : String → Prop} {kind : SchemeKind}

theorem each_shorten (kind : SchemeKind) {parts : List String} (h : ∀ part ∈ parts, Part part) :
    ∀ part ∈ shorten kind parts, Part part := by
  have dropped : ∀ part ∈ parts.dropLast, Part part := fun part member =>
    h part (List.dropLast_subset parts member)
  unfold shorten
  split
  next =>
    split
    next => exact h
    next => nofun
  next => exact dropped

theorem cutAtSlash_sublist (kind : SchemeKind) (s : List Char) :
    (cutAtSlash kind s).1.Sublist s ∧ ∀ rest ∈ (cutAtSlash kind s).2, rest.Sublist s := by
  unfold cutAtSlash
  dsimp only
  split
  next => exact ⟨List.takeWhile_sublist _, nofun⟩
  next rest dropped =>
    refine ⟨List.takeWhile_sublist _, ?_⟩
    rintro _ ⟨⟩
    exact (List.sublist_cons_self _ _).trans (dropped ▸ List.drop_sublist _ s)

theorem noSlash_cutAtSlash (kind : SchemeKind) (s : List Char) : '/' ∉ (cutAtSlash kind s).1 := by
  have part : (cutAtSlash kind s).1 = s.takeWhile (!kind.isSlash ·) := by
    unfold cutAtSlash
    dsimp only
    split <;> rfl
  intro member
  rw [part] at member
  have plain := List.all_eq_true.mp (List.all_takeWhile (p := (!kind.isSlash ·))) '/' member
  simp [SchemeKind.isSlash] at plain

/-- A path with one more part. -/
def grow (kind : SchemeKind) (isLast : Bool) (parts : List String) (part : List Char) : List String :=
  if isDoubleDot part then
    let above := shorten kind parts
    if isLast then above ++ [""] else above
  else if isDot part then
    if isLast then parts ++ [""] else parts
  else
    let drive :=
      match kind, parts, part with
      | .file, [], [letter, '|'] => if letter.isAlpha then [letter, ':'] else part
      | _, _, part => part
    parts ++ [escape escapedInPath (String.ofList drive)]

theorem pathFrom_succ (fuel : Nat) (parts : List String) (s : List Char) :
    pathFrom kind (fuel + 1) parts s =
      let (part, rest) := cutAtSlash kind s
      let parts := grow kind rest.isNone parts part
      match rest with
      | none => parts
      | some rest => pathFrom kind fuel parts rest := rfl

theorem each_grow (law : PartLaw Text Part) (kind : SchemeKind) {parts : List String} {part : List Char}
    (isLast : Bool) (known : ∀ part ∈ parts, Part part) (noSlash : '/' ∉ part) (text : Text part) :
    ∀ other ∈ grow kind isLast parts part, Part other := by
  have add {parts : List String} {last : String} (known : ∀ part ∈ parts, Part part)
      (holds : Part last) : ∀ other ∈ parts ++ [last], Part other := by
    intro other member
    obtain there | rfl := by simpa using member
    · exact known other there
    · exact holds
  have above := each_shorten kind known
  unfold grow
  split
  next =>
    dsimp only
    split
    next => exact add above law.empty
    next => exact above
  next =>
    split
    next =>
      split
      next => exact add known law.empty
      next => exact known
    next =>
      refine add known ?_
      split
      next letter =>
        split
        next isLetter =>
          refine law.escaped ?_ (law.drive isLetter text)
          simpa using noSlash
        next => exact law.escaped noSlash text
      next => exact law.escaped noSlash text

theorem each_pathFrom (law : PartLaw Text Part) (kind : SchemeKind) (fuel : Nat) {parts : List String}
    {s : List Char} (known : ∀ part ∈ parts, Part part) (text : Text s) :
    ∀ part ∈ pathFrom kind fuel parts s, Part part := by
  induction fuel generalizing parts s with
  | zero => exact known
  | succ fuel ih =>
      obtain ⟨here, later⟩ := cutAtSlash_sublist kind s
      have grown := each_grow law kind (cutAtSlash kind s).2.isNone known (noSlash_cutAtSlash kind s)
        (law.stretch here text)
      rw [pathFrom_succ]
      dsimp only
      split
      next => exact grown
      next rest more => exact ih grown (law.stretch (later rest more) text)

theorem each_empty (law : PartLaw Text Part) : (Path.segments [""]).Each Part := by
  intro part member
  rw [List.mem_singleton.mp member]
  exact law.empty

theorem each_parsePath (law : PartLaw Text Part) {base : List String} {s : List Char}
    (known : ∀ part ∈ base, Part part) (text : Text s) : (parsePath kind base s).Each Part := by
  have parts := each_pathFrom law kind (s.length + 1) known text
  cases kind with
  | file =>
      simp only [parsePath]
      cases shown : (pathFrom .file (s.length + 1) base s).dropWhile (· = "") with
      | nil => exact each_empty law
      | cons part rest =>
          intro other member
          rw [← shown] at member
          exact parts other ((List.dropWhile_sublist _).subset member)
  | special | other => exact parts

theorem each_rooted (law : PartLaw Text Part) (kind : SchemeKind) {s : List Char} (text : Text s) :
    (parsePath kind [] s).Each Part :=
  each_parsePath law (List.forall_mem_nil _) text

theorem each_pathAfterHost (law : PartLaw Text Part) (kind : SchemeKind) {s : List Char} (text : Text s) :
    (pathAfterHost kind s).Each Part := by
  cases s with
  | nil =>
      simp only [pathAfterHost]
      split
      next => exact each_empty law
      next => nofun
  | cons c rest =>
      simp only [pathAfterHost]
      split
      next => exact each_rooted law _ (law.stretch (List.sublist_cons_self c rest) text)
      next => exact each_rooted law _ text

/-! ## Authorities -/

theorem splitUserInfo_sublist {s rest : List Char} {name : String} {password : Option String}
    (split_ : splitUserInfo kind s = .ok (name, password, rest)) : rest.Sublist s := by
  have front (p q : Char → Bool) :
      (((s.takeWhile p).reverse.takeWhile q).reverse ++ s.drop (s.takeWhile p).length).Sublist s := by
    have host : ((s.takeWhile p).reverse.takeWhile q).reverse.Sublist (s.takeWhile p) := by
      simpa using List.Sublist.reverse (List.takeWhile_sublist q (l := (s.takeWhile p).reverse))
    have whole : s.takeWhile p ++ s.drop (s.takeWhile p).length = s := by
      simpa using (List.prefix_iff_eq_append.mp (List.takeWhile_prefix p (l := s)))
    have both := host.append_right (s.drop (s.takeWhile p).length)
    rwa [whole] at both
  have third {parts : String × Option String × List Char}
      (same : Except.ok parts = (.ok (name, password, rest) : Except Fault _)) : parts.2.2 = rest :=
    congrArg (fun parts => parts.2.2) (Except.ok.inj same)
  unfold splitUserInfo at split_
  dsimp only at split_
  split at split_
  next => exact third split_ ▸ .refl s
  next =>
    split at split_
    next =>
      split at split_
      next => cases split_
      next => exact third split_ ▸ front _ _
    next => split at split_ <;> exact third split_ ▸ front _ _

theorem parsePort_sublist {s after : List Char} {port port' : Option Nat}
    (read : parsePort port kind s = .ok (port', after)) : after.Sublist s := by
  induction s generalizing port with
  | nil =>
      cases read
      exact .refl []
  | cons c rest ih =>
      unfold parsePort at read
      generalize 65535 = largest at read
      split at read
      next =>
        dsimp only at read
        split at read
        next => cases read
        next => exact (ih read).trans (List.sublist_cons_self c rest)
      next =>
        split at read
        next =>
          cases read
          exact .refl _
        next => cases read

/-- Every part of a path that is read has the property. -/
def Gives (Part : String → Prop) (outcome : Except Fault Url) : Prop :=
  ∀ url, outcome = .ok url → url.path.Each Part

theorem gives_parseAuthority (law : PartLaw Text Part) {scheme : String} {c : Cut} (text : Text c.front) :
    Gives Part (parseAuthority scheme kind c) := by
  intro url read
  simp only [parseAuthority, bind, Except.bind, throw, throwThe, MonadExceptOf.throw, pure,
    Except.pure] at read
  split at read
  next => cases read
  next info split_ =>
    have rest := splitUserInfo_sublist split_
    have after := (List.drop_sublist (takeHost kind false info.2.2).length info.2.2).trans rest
    have path {scheme username : String} {password : Option String} {host : Option Host}
        {port : Option Nat} {after' : List Char} (sub : after'.Sublist c.front)
        (same : Except.ok (withTail kind ⟨scheme, username, password, host, port,
          pathAfterHost kind after', none, none⟩ c) = (.ok url : Except Fault Url)) :
        url.path.Each Part := by
      cases same
      exact each_pathAfterHost law _ (law.stretch sub text)
    have behind {colon : Char} {digits : List Char} {found : Option Nat × List Char}
        (shown : info.2.2.drop (takeHost kind false info.2.2).length = colon :: digits)
        (port : parsePort none kind digits = .ok found) : found.2.Sublist c.front := by
      rw [shown] at after
      exact ((parsePort_sublist port).trans (List.sublist_cons_self colon digits)).trans after
    repeat' split at read
    all_goals first
      | exact path after read
      | exact path (behind ‹_› ‹_›) read
      | cases read

/-! ## References -/

theorem Gives.ok {url : Url} (h : url.path.Each Part) : Gives Part (pure url) := by
  rintro _ ⟨⟩
  exact h

theorem front_cut_sublist (s : List Char) : (cut s).front.Sublist s := by
  have front : (cut s).front = s.takeWhile fun c => c ≠ '?' && c ≠ '#' := by
    unfold cut
    dsimp only
    split
    next => rfl
    next => split <;> rfl
    next => rfl
  rw [front]
  exact List.takeWhile_sublist _

theorem gives_parseFile (law : PartLaw Text Part) {base : Option Url} {c : Cut}
    (known : ∀ url ∈ base, url.path.Each Part) (text : Text c.front) :
    Gives Part (parseFile base c) := by
  unfold parseFile
  extract_lets kind host baseParts
  have dir : ∀ part ∈ baseParts, Part part := by
    dsimp only [baseParts]
    split
    next parts found =>
      obtain ⟨url, rfl, path⟩ := Option.map_eq_some_iff.mp found
      have each := known url rfl
      rw [path] at each
      exact each
    next => nofun
  -- A reference without a part of its own begins in the directory of the base, or at the root.
  have within (atRoot : Bool) {s : List Char} (sub : s.Sublist c.front) :
      (parsePath .file (if atRoot then [] else shorten .file baseParts) s).Each Part := by
    refine each_parsePath law ?_ (law.stretch sub text)
    split
    next => nofun
    next => exact each_shorten _ dir
  clear_value baseParts host
  dsimp only [kind]
  split
  next first second rest front =>
    have skip : rest.Sublist c.front := by
      rw [front]
      exact (List.sublist_cons_self _ _).trans (List.sublist_cons_self _ _)
    have tail : (second :: rest).Sublist c.front := by
      rw [front]
      exact List.sublist_cons_self _ _
    split
    next =>
      split
      next => exact .ok (each_rooted law .file (law.stretch skip text))
      next =>
        have path := each_pathAfterHost law .file
          (law.stretch ((List.drop_sublist (rest.takeWhile (!SchemeKind.file.isSlash ·)).length rest).trans skip) text)
        split
        next => exact .ok path
        next =>
          intro url read
          simp only [bind, Except.bind] at read
          split at read
          next => cases read
          next =>
            cases read
            exact path
    next =>
      split
      next => exact .ok (each_rooted law .file (law.stretch tail text))
      next => exact .ok (within (startsWithDrive c.front) (.refl c.front))
  next first front =>
    refine .ok (within (SchemeKind.file.isSlash first) ?_)
    rw [front]
    split
    next => exact List.nil_sublist _
    next => exact .refl _
  next =>
    split
    next url =>
      refine .ok ?_
      split <;> exact known url rfl
    next => exact .ok (each_empty law)

theorem gives_parseRelative (law : PartLaw Text Part) {base : Url} {parts : List String} {c : Cut}
    (path : base.path = .segments parts) (known : base.path.Each Part) (text : Text c.front) :
    Gives Part (parseRelative base parts c) := by
  have inBase : ∀ part ∈ parts, Part part := by
    rw [path] at known
    exact known
  unfold parseRelative
  dsimp only
  cases front : c.front with
  | nil =>
      refine .ok ?_
      split <;> exact known
  | cons first rest =>
      rw [front] at text
      have tail := List.sublist_cons_self first rest
      dsimp only
      split
      next =>
        split
        next second after =>
          have skipped := (List.sublist_cons_self second after).trans tail
          split
          next =>
            refine gives_parseAuthority law (law.stretch ?_ text)
            dsimp only
            split
            next => exact (List.dropWhile_sublist _).trans skipped
            next => exact skipped
          next => exact .ok (each_rooted law _ (law.stretch tail text))
        next => exact .ok (each_rooted law _ (law.stretch tail text))
      next => exact .ok (each_parsePath law (each_shorten _ inBase) text)

theorem gives_parseOther (law : PartLaw Text Part) {scheme : String} {c : Cut} (text : Text c.front) :
    Gives Part (parseOther scheme c) := by
  unfold parseOther
  dsimp only
  split
  next rest front =>
    refine gives_parseAuthority law (law.stretch ?_ text)
    rw [front]
    exact (List.sublist_cons_self _ _).trans (List.sublist_cons_self _ _)
  next rest _ front =>
    have tail : Text rest := law.stretch (front ▸ List.sublist_cons_self _ _) text
    exact .ok (show (parsePath .other [] rest).Each Part from each_rooted law _ tail)
  next => exact .ok trivial

theorem gives_parseAbsolute (law : PartLaw Text Part) {base : Url} {scheme : String} {rest : List Char}
    (known : base.path.Each Part) (text : Text rest) : Gives Part (parseAbsolute (some base) scheme rest) := by
  have front : Text (cut rest).front := law.stretch (front_cut_sublist rest) text
  have dropped (k : Nat) : Text ((cut rest).front.drop k) := law.stretch (List.drop_sublist k _) front
  unfold parseAbsolute
  dsimp only
  split
  next =>
    refine gives_parseFile law (fun url member => ?_) front
    cases (Option.filter_eq_some_iff.mp member).1
    exact known
  next => exact gives_parseOther law front
  next =>
    split
    next parts path =>
      split
      next => exact gives_parseRelative law path known front
      next => exact gives_parseAuthority law (dropped _)
    next => exact gives_parseAuthority law (dropped _)

theorem splitScheme_sublist {s rest : List Char} {scheme : String}
    (found : splitScheme? s = some (scheme, rest)) : rest.Sublist s := by
  unfold splitScheme? at found
  dsimp only at found
  split at found
  next => cases found
  next =>
    split at found
    next =>
      split at found
      next after =>
        cases found
        exact (List.sublist_cons_self _ _).trans (after ▸ List.dropWhile_sublist _)
      next => cases found
    next => cases found

theorem clean_sublist (s : String) : (clean s).Sublist s.toList := by
  unfold clean
  refine (List.filter_sublist).trans ?_
  have back := (List.dropWhile_sublist (l := (s.toList.dropWhile fun c => c.toNat ≤ 0x20).reverse)
    fun c => c.toNat ≤ 0x20).reverse
  rw [List.reverse_reverse] at back
  exact back.trans (List.dropWhile_sublist _)

/-- What the law says of texts and parts holds of a reference and the path that it gives. -/
theorem gives_join (law : PartLaw Text Part) {base : Url} {s : String} (known : base.path.Each Part)
    (text : Text s.toList) : Gives Part (join base s) := by
  have clean : Text (clean s) := law.stretch (clean_sublist s) text
  have front : Text (cut (Url.clean s)).front := law.stretch (front_cut_sublist _) clean
  unfold join
  dsimp only
  split
  next scheme rest found => exact gives_parseAbsolute law known (law.stretch (splitScheme_sublist found) clean)
  next =>
    split
    next => exact .ok known
    next => nofun
    next parts path _ =>
      split
      next => exact gives_parseFile law (fun url member => by cases member; exact known) front
      next => exact gives_parseRelative law path known front

/-! ## Slashes -/

theorem noSlash_escapeByte (b : UInt8) : '/' ∉ escapeByte b := by
  have digits : ∀ n < 16, '/' ≠ hexDigit n := by decide
  have byte := b.toNat_lt
  simp only [escapeByte, List.mem_cons, List.not_mem_nil, or_false, not_or]
  exact ⟨by decide, digits _ (by omega), digits _ (by omega)⟩

/-- No part has a slash in it. -/
theorem partLaw_noSlash : PartLaw (fun _ => True) ('/' ∉ ·.toList) where
  stretch _ _ := trivial
  drive _ _ := trivial
  empty := by simp
  escaped {s} noSlash _ := by
    intro member
    simp only [escape, String.toList_ofList, List.mem_flatMap] at member
    obtain ⟨c, there, among⟩ := member
    split at among
    next =>
      obtain ⟨b, -, slash⟩ := List.mem_flatMap.mp among
      exact noSlash_escapeByte b slash
    next =>
      rw [← List.mem_singleton.mp among] at there
      exact noSlash there

end TerminalAgent.Url
