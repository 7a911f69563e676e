import NovelScript.Text

/-!
The charsets in which a script may hold its text, and their names.
-/

namespace NovelScript

inductive Charset
  | shiftJis
  | gbk
  | utf8
  deriving DecidableEq, Repr, Inhabited

namespace Charset

def name : Charset → String
  | shiftJis => "Shift-JIS"
  | gbk => "GBK"
  | utf8 => "UTF-8"

def tag : Charset → String
  | shiftJis => "sjis"
  | gbk => "gbk"
  | utf8 => "utf8"

def ofTag? (t : Text) : Option Charset :=
  [shiftJis, gbk, utf8].find? fun cs => cs.tag.toList = t

def aliases : Charset → List String
  | shiftJis => ["sjis", "shiftjis", "shift_jis", "shift-jis"]
  | gbk => ["gbk", "gb18030"]
  | utf8 => ["utf8", "utf-8"]

def normalizedName (t : Text) : Text := t.trim.asciiLower

/-- The charset with an alias, in letters of either case and with white space around it allowed. -/
def ofName? (t : Text) : Option Charset :=
  [shiftJis, gbk, utf8].find? fun cs => cs.aliases.any fun a => a.toList = normalizedName t

end Charset

end NovelScript
