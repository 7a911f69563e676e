import NovelScript.Proofs.Container.Sections

/-!
What data says when it is taken for a container. The header stands at its front, and the records and
the sections are where the header says; nothing is checked. Written down again, header and records
are the bytes that they were taken from (`encode_headerOf`, `encode_recordsAt`). Data is *placed* if
all that the header declares lies inside of it, and *well-formed* if the strings and functions
declared are there, too; it *depicts* the script with the name, the strings and the functions that
stand in it.
-/

namespace NovelScript.Container

/-! ### Bytes by their offsets -/

def span (d : Bytes) (start length : Nat) : Bytes := (d.drop start).take length

theorem span_add (d : Bytes) (start m n : Nat) :
    span d start (m + n) = span d start m ++ span d (start + m) n := by
  simp [span, List.take_add]

theorem length_span {d : Bytes} {start length : Nat} (h : start + length ≤ d.length) :
    (span d start length).length = length := by
  simp [span]
  omega

theorem span_span (d : Bytes) {start length offset count : Nat} (h : offset + count ≤ length) :
    span (span d start length) offset count = span d (start + offset) count := by
  simp only [span, List.drop_take, List.take_take, List.drop_drop]
  rw [Nat.min_eq_left (by omega)]

theorem span_append_drop (d : Bytes) (start length : Nat) :
    d.drop start = span d start length ++ d.drop (start + length) := by
  rw [span, ← List.drop_drop, List.take_append_drop]

theorem span_middle {front middle back : Bytes} {start length : Nat} (hstart : start = front.length)
    (hlength : length = middle.length) :
    span (front ++ (middle ++ back)) start length = middle := by
  rw [span, hstart, hlength, List.drop_left, List.take_left]

def wordAt (d : Bytes) (offset : Nat) : UInt32 := wordOfBytes (span d offset 4)

theorem wordBytes_wordAt {d : Bytes} {offset : Nat} (h : offset + 4 ≤ d.length) :
    wordBytes (wordAt d offset) = span d offset 4 :=
  wordBytes_wordOfBytes (length_span h)

/-! ### The header -/

def headerOf (d : Bytes) : Header where
  leading := wordAt d 0x00
  name := span d 0x04 nameWidth
  functionsStart := wordAt d 0x24
  functionCount := wordAt d 0x28
  codeStart := wordAt d 0x2c
  codeSize := wordAt d 0x30
  stringsStart := wordAt d 0x34
  stringsSize := wordAt d 0x38
  fileSize := wordAt d 0x3c
  trailing := wordAt d 0x40

theorem padded_name_headerOf {d : Bytes} (h : headerSize ≤ d.length) :
    Field.padded (headerOf d).name nameWidth = (headerOf d).name := by
  simp only [headerSize] at h
  apply padded_of_length
  apply length_span
  simp only [nameWidth]
  omega

theorem encode_headerOf {d : Bytes} (h : headerSize ≤ d.length) :
    encodeFields (headerOf d).fields = d.take headerSize := by
  have hsplit : d.take headerSize =
      span d 0 (4 + (32 + (4 + (4 + (4 + (4 + (4 + (4 + (4 + 4))))))))) := rfl
  have hname := padded_name_headerOf h
  simp only [headerSize] at h
  rw [hsplit]
  simp only [span_add, encodeFields, Header.fields, List.flatMap_cons, List.flatMap_nil,
    Field.encode, hname]
  simp (disch := omega) only [headerOf, wordBytes_wordAt, List.append_nil, nameWidth, Nat.zero_add,
    Nat.reduceAdd]

theorem runFrom_readHeader_eq {d : Bytes} (h : headerSize ≤ d.length) :
    readHeader.runFrom { data := d } = (.ok (headerOf d), { data := d, pos := headerSize }) := by
  have hrest : ({ data := d } : Cursor).rest =
      encodeFields (headerOf d).fields ++ d.drop headerSize := by
    rw [encode_headerOf h, List.take_append_drop]
    rfl
  have hread := reads_header (headerOf d) _ _ (Nat.zero_le _) hrest
  rw [padded_name_headerOf h, length_encode_header] at hread
  exact hread

/-- A header that was written is found again, with its name padded. -/
theorem headerOf_encode (h : Header) (more : Bytes) :
    headerOf (encodeFields h.fields ++ more) =
      { h with name := Field.padded h.name nameWidth } := by
  have hroom : headerSize ≤ (encodeFields h.fields ++ more).length := by simp
  have hread := reads_header h { data := encodeFields h.fields ++ more } more (Nat.zero_le _) rfl
  rw [runFrom_readHeader_eq hroom] at hread
  exact Except.ok.inj (congrArg Prod.fst hread)

theorem needs_readHeader : Needs readHeader headerSize :=
  Needs.u32.bind fun _ => (Needs.block _).bind fun _ => Needs.u32.bind fun _ =>
    Needs.u32.bind fun _ => Needs.u32.bind fun _ => Needs.u32.bind fun _ =>
    Needs.u32.bind fun _ => Needs.u32.bind fun _ => Needs.u32.bind fun _ =>
    Needs.u32.bind fun _ => Needs.pure _

/-! ### The function table -/

def recordAt (d : Bytes) (offset : Nat) : Record where
  name := wordAt d offset
  params := wordAt d (offset + 0x04)
  locals := wordAt d (offset + 0x08)
  pos := wordAt d (offset + 0x0c)
  size := wordAt d (offset + 0x10)

def recordsAt (d : Bytes) (offset : Nat) : (count : Nat) → List Record
  | 0 => []
  | count + 1 => recordAt d offset :: recordsAt d (offset + recordSize) count

@[simp] theorem length_recordsAt (d : Bytes) (offset count : Nat) :
    (recordsAt d offset count).length = count := by
  induction count generalizing offset with
  | zero => rfl
  | succ count ih => simp [recordsAt, ih]

theorem encode_recordAt {d : Bytes} {offset : Nat} (h : offset + recordSize ≤ d.length) :
    encodeFields (recordAt d offset).fields = span d offset recordSize := by
  have hsplit : span d offset recordSize = span d offset (4 + (4 + (4 + (4 + 4)))) := rfl
  simp only [recordSize] at h
  rw [hsplit]
  simp only [span_add, encodeFields, Record.fields, List.flatMap_cons, List.flatMap_nil,
    Field.encode]
  simp (disch := omega) only [recordAt, wordBytes_wordAt, List.append_nil, Nat.add_assoc,
    Nat.reduceAdd]

theorem encode_recordsAt {d : Bytes} {offset count : Nat}
    (h : offset + count * recordSize ≤ d.length) :
    (recordsAt d offset count).flatMap (fun r => encodeFields r.fields) =
      span d offset (count * recordSize) := by
  induction count generalizing offset with
  | zero => simp [recordsAt, span]
  | succ count ih =>
    rw [Nat.succ_mul] at h ⊢
    rw [recordsAt, List.flatMap_cons, encode_recordAt (by omega), ih (by omega), ← span_add,
      Nat.add_comm]

theorem runFrom_readRecord {c : Cursor} (h : c.pos + recordSize ≤ c.data.length) :
    readRecord.runFrom c =
      (.ok (recordAt c.data c.pos), { c with pos := c.pos + recordSize }) := by
  have hrest : c.rest =
      encodeFields (recordAt c.data c.pos).fields ++ c.data.drop (c.pos + recordSize) := by
    rw [encode_recordAt h, ← span_append_drop]
    rfl
  have hread := reads_record (recordAt c.data c.pos) c _ (by omega) hrest
  rw [length_encode_record] at hread
  exact hread

theorem recordsAt_encode {d : Bytes} {offset : Nat} {rs : List Record} {more : Bytes}
    (h : d.drop offset = rs.flatMap (fun r => encodeFields r.fields) ++ more) :
    recordsAt d offset rs.length = rs := by
  induction rs generalizing offset with
  | nil => rfl
  | cons r rs ih =>
    rw [List.flatMap_cons, List.append_assoc] at h
    have hlen := congrArg List.length h
    rw [List.length_drop, List.length_append, length_encode_record] at hlen
    have hsize : 0 < recordSize := by decide
    have hread := reads_record r { data := d, pos := offset } _ (by simp only; omega) h
    rw [runFrom_readRecord (by simp only; omega)] at hread
    have hfirst : recordAt d offset = r := Except.ok.inj (congrArg Prod.fst hread)
    have hrest : d.drop (offset + recordSize) =
        rs.flatMap (fun r => encodeFields r.fields) ++ more := by
      rw [← List.drop_drop, h]
      exact List.drop_left' (length_encode_record r)
    rw [List.length_cons, recordsAt, hfirst, ih hrest]

/-! ### Sections and contents -/

def records (d : Bytes) : List Record :=
  recordsAt d (headerOf d).functionsStart.toNat (headerOf d).functionCount.toNat

def codeSection (d : Bytes) : Bytes := slice d (headerOf d).codeStart (headerOf d).codeSize

def stringSection (d : Bytes) : Bytes := slice d (headerOf d).stringsStart (headerOf d).stringsSize

structure Placed (d : Bytes) : Prop where
  header : headerSize ≤ d.length
  count : (headerOf d).functionCount.toNat * recordSize < 2 ^ 32
  table :
    (headerOf d).functionsStart.toNat + (headerOf d).functionCount.toNat * recordSize ≤ d.length
  code : (headerOf d).codeStart.toNat + (headerOf d).codeSize.toNat ≤ d.length
  strings : (headerOf d).stringsStart.toNat + (headerOf d).stringsSize.toNat ≤ d.length

/-- Data that is a container: nothing is behind the last string, the code of every function lies in
the code section, and a string starts where a function has its name. -/
structure WellFormed (d : Bytes) : Prop extends Placed d where
  terminated : stringSection d = [] ∨ (stringSection d).getLast? = some 0
  code_inside : ∀ r ∈ records d, r.pos.toNat + r.size.toNat ≤ (headerOf d).codeSize.toNat
  name_starts : ∀ r ∈ records d, StartsString (stringSection d) r.name.toNat

def functionAt (d : Bytes) (r : Record) : FunctionEntry where
  name := r.name
  pos := r.pos
  params := r.params
  locals := r.locals
  code := span d ((headerOf d).codeStart.toNat + r.pos.toNat) r.size.toNat

/-- The script that stands in the data: its name is that of the header up to the first zero byte. -/
structure Depicts (d : Bytes) (s : Script) : Prop where
  name : s.name = (headerOf d).name.takeWhile (· ≠ 0)
  strings : IsSplit (stringSection d) s.strings
  functions : s.functions = (records d).map (functionAt d)

/-- The same name, records and sections stand in both, wherever in the data and whatever else. -/
structure Agree (d d' : Bytes) : Prop where
  name : (headerOf d').name.takeWhile (· ≠ 0) = (headerOf d).name.takeWhile (· ≠ 0)
  records : records d' = records d
  code : codeSection d' = codeSection d
  strings : stringSection d' = stringSection d

/-- The ends of table, sections and functions can be had as words. -/
structure NoWrap (d : Bytes) : Prop where
  table :
    ((headerOf d).functionsStart + (headerOf d).functionCount * UInt32.ofNat recordSize).toNat =
    (headerOf d).functionsStart.toNat + (headerOf d).functionCount.toNat * recordSize
  code : ((headerOf d).codeStart + (headerOf d).codeSize).toNat =
    (headerOf d).codeStart.toNat + (headerOf d).codeSize.toNat
  strings : ((headerOf d).stringsStart + (headerOf d).stringsSize).toNat =
    (headerOf d).stringsStart.toNat + (headerOf d).stringsSize.toNat
  functions : ∀ r ∈ records d, (r.pos + r.size).toNat = r.pos.toNat + r.size.toNat

theorem WellFormed.noWrap {d : Bytes} (h : WellFormed d) (hsize : d.length < 2 ^ 32) :
    NoWrap d := by
  have hsum {a b : UInt32} (hab : a.toNat + b.toNat < 2 ^ 32) :
      (a + b).toNat = a.toNat + b.toNat := by
    rw [UInt32.toNat_add, Nat.mod_eq_of_lt hab]
  have htable : ((headerOf d).functionCount * UInt32.ofNat recordSize).toNat =
      (headerOf d).functionCount.toNat * recordSize := by
    rw [UInt32.toNat_mul]
    exact Nat.mod_eq_of_lt h.count
  refine ⟨?_, hsum (h.code.trans_lt hsize), hsum (h.strings.trans_lt hsize), ?_⟩
  · rw [← htable]
    apply hsum
    rw [htable]
    exact h.table.trans_lt hsize
  · intro r hr
    exact hsum ((h.code_inside r hr).trans_lt (headerOf d).codeSize.toNat_lt)

instance (d : Bytes) : Decidable (Placed d) :=
  decidable_of_iff (_ ∧ _ ∧ _ ∧ _ ∧ _)
    ⟨fun ⟨h₁, h₂, h₃, h₄, h₅⟩ => ⟨h₁, h₂, h₃, h₄, h₅⟩,
      fun ⟨h₁, h₂, h₃, h₄, h₅⟩ => ⟨h₁, h₂, h₃, h₄, h₅⟩⟩

instance (d : Bytes) : Decidable (WellFormed d) :=
  decidable_of_iff (Placed d ∧ _ ∧ _ ∧ _)
    ⟨fun ⟨h₁, h₂, h₃, h₄⟩ => ⟨h₁, h₂, h₃, h₄⟩, fun ⟨h₁, h₂, h₃, h₄⟩ => ⟨h₁, h₂, h₃, h₄⟩⟩

instance (d : Bytes) (s : Script) : Decidable (Depicts d s) :=
  decidable_of_iff (_ ∧ _ ∧ _)
    ⟨fun ⟨h₁, h₂, h₃⟩ => ⟨h₁, h₂, h₃⟩, fun ⟨h₁, h₂, h₃⟩ => ⟨h₁, h₂, h₃⟩⟩

theorem Placed.length_codeSection {d : Bytes} (h : Placed d) :
    (codeSection d).length = (headerOf d).codeSize.toNat := length_span h.code

theorem Placed.length_stringSection {d : Bytes} (h : Placed d) :
    (stringSection d).length = (headerOf d).stringsSize.toNat := length_span h.strings

theorem slice_codeSection {d : Bytes} {r : Record}
    (h : r.pos.toNat + r.size.toNat ≤ (headerOf d).codeSize.toNat) :
    slice (codeSection d) r.pos r.size = (functionAt d r).code := span_span d h

end NovelScript.Container
