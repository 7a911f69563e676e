import NovelScript.Instruction.Sweep
import NovelScript.Script

/-!
Who speaks a line of dialogue. A script selects the speaking character by pushing its number and
calling one engine function, and shows a line by pushing the position of its string and calling
another. Going through the code in table order, the speaker of a string is the character selected
when it is shown for the first time.
-/

namespace NovelScript

/-- The code that shows the string on the stack: `calln @native00,1`. -/
def showLine : Bytes := [0x29, 0x00, 0x00, 0x00, 0x00, 0x01]

/-- The codes that select the character on the stack: `calln @native1d,2` and `calln @native1e,2`.
-/
def selectSpeaker : List Bytes :=
  [[0x29, 0x1d, 0x00, 0x00, 0x00, 0x02], [0x29, 0x1e, 0x00, 0x00, 0x00, 0x02]]

def startsWith (code signature : Bytes) : Bool := signature.isPrefixOf code

/-- The characters of a script by number. -/
structure Cast where
  names : List Text
  deriving DecidableEq, Repr

namespace Cast

def standard : Cast where
  names :=
    ["Kazuki", "Sayaka", "Rin", "Mio", "Haruto", "Aoi", "Tsubasa", "Yuuka", "Shiori", "Kenji",
      "Natsume", "Ayane", "Ren", "Chiaki", "Misaki", "Takeru", "Hinata", "Kaede", "Souta", "Madoka",
      "Teacher", "Mother", "Father", "Girl", "Boy", "Voice", "Both", "Them three", "All"].map
      String.toList

def name? (cast : Cast) (id : Int) : Option Text :=
  if id < 0 then none else cast.names[id.toNat]?

end Cast

namespace Speaker

/-- What a scan has found out: the selected character, negative for none, and the character that
showed each string first, the latest find in front. -/
structure State where
  current : Int := -1
  found : List (UInt32 × Int) := []
  deriving DecidableEq, Repr

def State.pass (s : State) (p : Placed) : State :=
  match p.instruction with
  | ⟨.pushc, [.constant value]⟩ =>
    if selectSpeaker.any (startsWith p.rest) then { s with current := value.toInt32.toInt }
    else if 0 ≤ s.current ∧ startsWith p.rest showLine ∧ (s.found.lookup value).isNone then
      { s with found := (value, s.current) :: s.found }
    else s
  | _ => s

/-- Goes through a function up to its first undecodable instruction. -/
def State.passFunction (s : State) (f : FunctionEntry) : State :=
  (Sweep.ofCode f.code).found.foldl State.pass s

/-- The character that shows each string first, in the order of the first showing. -/
def firstSpeakers (functions : List FunctionEntry) : List (UInt32 × Int) :=
  (functions.foldl State.passFunction {}).found.reverse

/-- The names of the speakers by the positions of their strings. A character without a name is left
out. -/
def infer (script : Script) (cast : Cast) : List (UInt32 × Text) :=
  (firstSpeakers script.functions).filterMap fun (pos, id) =>
    (cast.name? id).map fun name => (pos, name)

end Speaker

end NovelScript
