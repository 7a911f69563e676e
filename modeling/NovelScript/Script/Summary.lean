import NovelScript.Charset.Codec
import NovelScript.Script

/-!
The layout report of a script: sizes and counts, and the names decoded for people to read.
-/

namespace NovelScript

structure FunctionSummary where
  name : Text
  pos : UInt32
  size : UInt32
  params : UInt32
  locals : UInt32
  deriving DecidableEq, Repr

structure ScriptSummary where
  name : Text
  charset : Charset
  codeSize : UInt32
  stringCount : Nat
  stringsSize : UInt32
  functions : List FunctionSummary
  deriving DecidableEq, Repr

namespace Script

def codeEnd (s : Script) : UInt32 := s.functions.foldl (fun stop f => max stop f.stop) 0

/-- The layout of a function of `s`. A function whose name is no string has the empty name. -/
def summarizeFunction (s : Script) (cs : Charset) (f : FunctionEntry) : FunctionSummary where
  name := ((s.functionName? f).map cs.decodeLossy).getD []
  pos := f.pos
  size := wordLength f.code
  params := f.params
  locals := f.locals

def summary (s : Script) (cs : Charset) : ScriptSummary where
  name := cs.decodeLossy s.name
  charset := cs
  codeSize := s.codeEnd
  stringCount := s.strings.length
  stringsSize := s.nextStringPos
  functions := s.functions.map (s.summarizeFunction cs)

/-- The texts that a report decodes, in the order of decoding: the function names, then the name. -/
def summaryTexts (s : Script) : List Bytes := s.functions.filterMap s.functionName? ++ [s.name]

end Script

end NovelScript
