/-!
# Keys of recordings

A key names a recording and is part of a file name, so it is short and made of harmless characters.
-/

namespace TerminalAgent.RecordingKey

/-- The characters of keys: ASCII letters and digits, hyphen and underscore. -/
def isKeyChar (c : Char) : Bool :=
  c.isAlphanum || c = '-' || c = '_'

/-- Whether a text is a key: 1 to 128 of those characters. -/
def isValid (key : String) : Bool :=
  key ≠ "" && key.utf8ByteSize ≤ 128 && key.toList.all isKeyChar

end TerminalAgent.RecordingKey
