import NovelScript.Bytes.Buffer
import NovelScript.Proofs.Container.Reading

/-!
Data that is written field by field, and read field by field. Of a field its kind has to be known in
order to read it: how many bytes it has, or that it goes up to a zero byte. Fields of any kinds in
any order are read back as they were written, and then everything has been read (`reads_fields`);
and a word that is patched in is read where it was put, all other bytes being as they were
(`patched_patch`).
-/

namespace NovelScript

inductive FieldKind
  | u8
  | u16
  | u32
  | u64
  | block (length : Nat)
  | cstr
  deriving DecidableEq, Repr

namespace Field

/-- The kind as which a field is read. Of bytes in a field of fixed width only the width is known.
-/
def kind : Field → FieldKind
  | u8 _ => .u8
  | u16 _ => .u16
  | u32 _ => .u32
  | u64 _ => .u64
  | block bytes => .block bytes.length
  | cstr _ => .cstr
  | fixed _ width => .block width

/-- What is found where a field was written: bytes in a field of fixed width have been cut or padded
with zeros. -/
def found : Field → Field
  | fixed bytes width => .block (padded bytes width)
  | field => field

/-- A zero byte inside of a text that ends in one cannot be told from its end. -/
def Readable : Field → Prop
  | cstr bytes => 0 ∉ bytes
  | _ => True

instance : ∀ field : Field, Decidable field.Readable
  | cstr bytes => inferInstanceAs (Decidable (0 ∉ bytes))
  | u8 _ | u16 _ | u32 _ | u64 _ | block _ | fixed _ _ => .isTrue trivial

end Field

def Read.field : FieldKind → Read Field
  | .u8 => return .u8 (← Read.u8)
  | .u16 => return .u16 (← Read.u16)
  | .u32 => return .u32 (← Read.u32)
  | .u64 => return .u64 (← Read.u64)
  | .block length => return .block (← Read.block length)
  | .cstr => return .cstr (← Read.cstr)

def Read.fields : List FieldKind → Read (List Field)
  | [] => return []
  | kind :: kinds => do
    let field ← Read.field kind
    let fields ← Read.fields kinds
    return field :: fields

/-! ### One field -/

namespace Reads

theorem number {α : Type} (ofNat : Nat → α) (width : Nat) {n : Nat} (h : n < Nat.pow 256 width) :
    Reads (do return ofNat (LittleEndian.decode (← Read.block width)))
      (LittleEndian.encode width n) (ofNat n) := by
  have hread := (block (LittleEndian.encode width n)).map (f := fun bytes =>
    ofNat (LittleEndian.decode bytes))
  rw [LittleEndian.length_encode, LittleEndian.decode_encode, Nat.mod_eq_of_lt h] at hread
  exact hread

theorem u8 (value : UInt8) : Reads Read.u8 [value] value := by
  have hread := number UInt8.ofNat 1 value.toNat_lt
  rw [UInt8.ofNat_toNat, LittleEndian.encode, LittleEndian.encode, UInt8.ofNat_toNat] at hread
  exact hread

theorem u16 (value : UInt16) : Reads Read.u16 (LittleEndian.encode 2 value.toNat) value := by
  have hread := number UInt16.ofNat 2 value.toNat_lt
  rw [UInt16.ofNat_toNat] at hread
  exact hread

theorem u64 (value : UInt64) : Reads Read.u64 (LittleEndian.encode 8 value.toNat) value := by
  have hread := number UInt64.ofNat 8 value.toNat_lt
  rw [UInt64.ofNat_toNat] at hread
  exact hread

/-- A text ends at the first zero byte, which is passed over. -/
theorem cstr {bytes : Bytes} (h : 0 ∉ bytes) : Reads Read.cstr (bytes ++ [0]) bytes := by
  intro c more _ hrest
  rw [List.append_assoc, List.singleton_append] at hrest
  have hfind : c.rest.idxOf? 0 = some bytes.length := by
    rw [hrest, List.idxOf?, List.findIdx?_append, ← List.idxOf?, List.idxOf?_eq_none_iff.2 h]
    simp [List.idxOf?_cons]
  have htake : c.rest.take bytes.length = bytes := by rw [hrest, List.take_left]
  rw [Read.cstr, Read.runFrom_bind_ok (Read.runFrom_get c), hfind, List.length_append]
  show (Except.ok (c.rest.take bytes.length), _) = _
  rw [htake]
  rfl

/-- A field is read back where it was written, whatever follows it. -/
theorem field {f : Field} (h : f.Readable) : Reads (Read.field f.kind) f.encode f.found := by
  cases f with
  | u8 value => exact (u8 value).map
  | u16 value => exact (u16 value).map
  | u32 value => exact (u32 value).map
  | u64 value => exact (u64 value).map
  | block bytes => exact (block bytes).map
  | cstr bytes => exact (cstr h).map
  | fixed bytes width =>
    have hread := (block (Field.padded bytes width)).map (f := Field.block)
    rw [Field.length_padded] at hread
    exact hread

/-- Fields that were written one after the other are read one after the other. -/
theorem fields {fs : List Field} (h : ∀ f ∈ fs, f.Readable) :
    Reads (Read.fields (fs.map Field.kind)) (encodeFields fs) (fs.map Field.found) := by
  induction fs with
  | nil => exact Reads.pure []
  | cons f fs ih =>
    obtain ⟨hf, hfs⟩ := List.forall_mem_cons.1 h
    exact (field hf).bind (ih hfs).map

end Reads

/-! ### Writing -/

theorem Write.runOn_bind_ok {α β : Type} {action : Write α} {f : α → Write β} {b b' : Buffer}
    {a : α}
    (h : action.runOn b = (.ok a, b')) : (action >>= f).runOn b = (f a).runOn b' := by
  show (ExceptT.bindCont f (action.runOn b).1).run (action.runOn b).2 = _
  rw [h]
  rfl

theorem encodeFields_flatMap {α : Type} (fields : α → List Field) (l : List α) :
    encodeFields (l.flatMap fields) = l.flatMap fun a => encodeFields (fields a) :=
  List.flatMap_assoc

/-- Writing fields puts their bytes behind what has been written, and does not fail. -/
theorem Write.runOn_fields (fs : List Field) (b : Buffer) :
    ∃ written, (Write.fields fs).runOn b = (.ok (), written) ∧
      written.toList = b.toList ++ encodeFields fs := by
  induction fs generalizing b with
  | nil => exact ⟨b, rfl, (List.append_nil _).symm⟩
  | cons f fs ih =>
    obtain ⟨written, hrun, hbytes⟩ := ih (b.put f)
    refine ⟨written, hrun, ?_⟩
    rw [hbytes, Buffer.toList_put, List.append_assoc, encodeFields, encodeFields, List.flatMap_cons]

/-- A patch that fails leaves the data as it is. -/
theorem Write.runOn_patch (b : Buffer) (offset : Nat) (value : UInt32) :
    (Write.patch offset value).runOn b =
      match b.patch offset value with
      | .ok patched => (.ok (), patched)
      | .error fault => (.error fault, b) := by
  show ((do
    match b.patch offset value with
    | .ok patched => set patched
    | .error fault => throw fault : Write Unit)).runOn b = _
  cases b.patch offset value <;> rfl

/-- What patching does: the word is read where it was put, and all other bytes are as they were. -/
structure Patched (b patched : Buffer) (offset : Nat) (value : UInt32) : Prop where
  size : patched.size = b.size
  word : (Read.seek offset >>= fun _ => Read.u32).runFrom { data := patched.toList } =
    (.ok value, { data := patched.toList, pos := offset + 4 })
  elsewhere : ∀ i, i < offset ∨ offset + 4 ≤ i → patched.toList[i]? = b.toList[i]?

/-- A word inside of the data is replaced. -/
theorem patched_patch {b : Buffer} {offset : Nat} (h : offset + 4 ≤ b.size) (value : UInt32) :
    ∃ patched, (Write.patch offset value).runOn b = (.ok (), patched) ∧
      Patched b patched offset value := by
  rw [← Buffer.length_toList] at h
  let bytes := b.toList.take offset ++ (wordBytes value ++ b.toList.drop (offset + 4))
  have hpatch : b.patch offset value = .ok ⟨bytes.toArray⟩ := by
    rw [Buffer.patch, patchWord, if_pos h, List.append_assoc]
    rfl
  have hfront : (b.toList.take offset).length = offset := by
    rw [List.length_take]
    omega
  have hlength : bytes.length = b.toList.length := by
    simp only [bytes, List.length_append, length_wordBytes, List.length_drop, hfront]
    omega
  refine ⟨⟨bytes.toArray⟩, by rw [Write.runOn_patch, hpatch], ?_, ?_, ?_⟩
  · rw [← Buffer.length_toList, ← Buffer.length_toList]
    exact hlength
  · have hrest : ({ data := bytes, pos := offset } : Cursor).rest =
        wordBytes value ++ b.toList.drop (offset + 4) := List.drop_left' hfront
    have hread := Reads.u32 value { data := bytes, pos := offset } _ (by simp only; omega) hrest
    have hseek : (Read.seek offset).runFrom { data := bytes } =
        (.ok (), { data := bytes, pos := offset }) := by
      rw [Read.seek, Read.runFrom_bind_ok (Read.runFrom_get _), if_neg (by simp only; omega)]
      rfl
    exact (Read.runFrom_bind_ok hseek).trans hread
  · intro i hi
    show bytes[i]? = b.toList[i]?
    rcases hi with hi | hi
    · rw [List.getElem?_append_left (by omega), List.getElem?_take_of_lt hi]
    · have hword : (wordBytes value).length ≤ i - offset := by
        rw [length_wordBytes]
        omega
      rw [List.getElem?_append_right (by omega), hfront, List.getElem?_append_right hword,
        length_wordBytes, List.getElem?_drop]
      congr 1
      omega

/-- Where no word is, nothing is replaced. -/
theorem patch_outside {b : Buffer} {offset : Nat} (h : b.size < offset + 4) (value : UInt32) :
    (Write.patch offset value).runOn b = (.error (.encode (.patchOutside offset b.size)), b) := by
  have hpatch : b.patch offset value = .error (.encode (.patchOutside offset b.size)) := by
    rw [Buffer.patch, patchWord, Buffer.length_toList, if_neg (by omega)]
    rfl
  rw [Write.runOn_patch, hpatch]

/-! ### Main result -/

/-- Whatever is written is read back: fields of any kinds in any order, with their values, up to the
end of the data; and a word that is patched in, nothing else being changed. A patch that does not
fit, at however large an offset, fails and leaves the data as it is. -/
theorem write_exact :
    (∀ (fs : List Field) (base : Nat), (∀ f ∈ fs, f.Readable) →
      ∃ b, (Write.fields fs).runOn {} = (.ok (), b) ∧
        (Read.fields (fs.map Field.kind)).runFrom { data := b.toList, base } =
          (.ok (fs.map Field.found), { data := b.toList, base, pos := b.toList.length })) ∧
    ∀ (b : Buffer) (offset : Nat) (value : UInt32),
      (offset + 4 ≤ b.size → ∃ patched, (Write.patch offset value).runOn b = (.ok (), patched) ∧
        Patched b patched offset value) ∧
      (b.size < offset + 4 → (Write.patch offset value).runOn b =
        (.error (.encode (.patchOutside offset b.size)), b)) := by
  refine ⟨?_, fun b offset value =>
    ⟨fun h => patched_patch h value, fun h => patch_outside h value⟩⟩
  intro fs base h
  obtain ⟨b, hrun, hbytes⟩ := Write.runOn_fields fs {}
  refine ⟨b, hrun, ?_⟩
  have hdata : b.toList = encodeFields fs := hbytes
  have hread := Reads.fields h { data := encodeFields fs, base } [] (Nat.zero_le _)
    (List.append_nil _).symm
  rw [Nat.zero_add] at hread
  rw [hdata]
  exact hread

def someFields : List Field :=
  [.u16 0xbeef, .cstr [], .fixed [1, 2, 3] 2, .u64 0x0102030405060708, .fixed [9] 3, .u8 0xff,
    .block [0, 0], .cstr [7, 8], .u32 0xdeadc0de]

theorem write_exact_someFields :
    (∀ f ∈ someFields, f.Readable) ∧
      (∃ b, (Write.fields someFields).runOn {} = (.ok (), b) ∧
        (Read.fields (someFields.map Field.kind)).runFrom { data := b.toList, base := 0 } =
          (.ok [.u16 0xbeef, .cstr [], .block [1, 2], .u64 0x0102030405060708, .block [9, 0, 0],
              .u8 0xff, .block [0, 0], .cstr [7, 8], .u32 0xdeadc0de],
            { data := b.toList, base := 0, pos := b.toList.length })) ∧
      (∃ patched, (Write.patch 1 7).runOn ⟨#[1, 2, 3, 4, 5]⟩ = (.ok (), patched) ∧
        Patched ⟨#[1, 2, 3, 4, 5]⟩ patched 1 7) ∧
      (Write.patch (2 ^ 64 - 1) 7).runOn ⟨#[1, 2, 3, 4, 5]⟩ =
        (.error (.encode (.patchOutside (2 ^ 64 - 1) 5)), ⟨#[1, 2, 3, 4, 5]⟩) := by
  have hreadable : ∀ f ∈ someFields, f.Readable := by decide
  have hpatch := write_exact.2 ⟨#[1, 2, 3, 4, 5]⟩
  exact ⟨hreadable, write_exact.1 someFields 0 hreadable, (hpatch 1 7).1 (by decide),
    (hpatch (2 ^ 64 - 1) 7).2 (by decide)⟩

end NovelScript
