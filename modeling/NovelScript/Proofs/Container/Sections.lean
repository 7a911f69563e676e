import NovelScript.Proofs.Container.Strings

/-!
The parts of a container apart from its strings, each written and read back: the header with a
padded name, the function table, and the code section, which has every function at its position.
-/

namespace NovelScript.Container

/-! ### Header and function table -/

theorem reads_header (h : Header) :
    Reads readHeader (encodeFields h.fields)
      { h with name := Field.padded h.name nameWidth } := by
  have hname := Reads.block (Field.padded h.name nameWidth)
  rw [Field.length_padded] at hname
  exact (Reads.u32 h.leading).bind <| hname.bind <| (Reads.u32 h.functionsStart).bind <|
    (Reads.u32 h.functionCount).bind <| (Reads.u32 h.codeStart).bind <|
    (Reads.u32 h.codeSize).bind <| (Reads.u32 h.stringsStart).bind <|
    (Reads.u32 h.stringsSize).bind <| (Reads.u32 h.fileSize).bind <|
    (Reads.u32 h.trailing).bind <| Reads.pure _

theorem reads_record (r : Record) : Reads readRecord (encodeFields r.fields) r :=
  (Reads.u32 r.name).bind <| (Reads.u32 r.params).bind <| (Reads.u32 r.locals).bind <|
    (Reads.u32 r.pos).bind <| (Reads.u32 r.size).bind <| Reads.pure _

@[simp] theorem length_encode_header (h : Header) :
    (encodeFields h.fields).length = headerSize := by
  simp only [encodeFields, Header.fields, List.flatMap_cons, List.flatMap_nil, List.length_append,
    Field.encode, length_wordBytes, Field.length_padded, List.length_nil]
  rfl

@[simp] theorem length_encode_record (r : Record) :
    (encodeFields r.fields).length = recordSize := by
  simp only [encodeFields, Record.fields, List.flatMap_cons, List.flatMap_nil, List.length_append,
    Field.encode, length_wordBytes, List.length_nil]
  rfl

theorem padded_of_length {bytes : Bytes} {width : Nat} (h : bytes.length = width) :
    Field.padded bytes width = bytes := by
  simp [Field.padded, ← h]

theorem encode_padded_name (h : Header) :
    encodeFields { h with name := Field.padded h.name nameWidth }.fields =
      encodeFields h.fields := by
  simp only [encodeFields, Header.fields, List.flatMap_cons, Field.encode,
    padded_of_length (Field.length_padded h.name nameWidth)]

def tableBytes (functions : List FunctionEntry) : Bytes :=
  (functions.map Record.ofFunction).flatMap fun r => encodeFields r.fields

@[simp] theorem length_tableBytes (functions : List FunctionEntry) :
    (tableBytes functions).length = functions.length * recordSize := by
  induction functions with
  | nil => rfl
  | cons f functions ih =>
    rw [tableBytes, List.map_cons, List.flatMap_cons, List.length_append, length_encode_record]
    rw [tableBytes] at ih
    rw [ih, List.length_cons, Nat.add_mul, Nat.one_mul, Nat.add_comm]

/-! ### Code -/

theorem slice_of_layCode {cursor : Nat} {fs : List FunctionEntry} {code : Bytes}
    (h : Script.layCode cursor fs = .ok code) {f : FunctionEntry} (hf : f ∈ fs) :
    cursor ≤ f.pos.toNat ∧ f.pos.toNat + f.code.length ≤ cursor + code.length ∧
      (code.drop (f.pos.toNat - cursor)).take f.code.length = f.code := by
  induction fs generalizing cursor code with
  | nil => exact nomatch hf
  | cons g fs ih =>
    rw [Script.layCode] at h
    split at h
    · exact nomatch h
    · rename_i hcursor
      obtain ⟨rest, hrest, rfl⟩ := Outcome.map_eq_ok_iff.1 h
      have hgap : (List.replicate (g.pos.toNat - cursor) (0 : UInt8)).length =
          g.pos.toNat - cursor := List.length_replicate
      rcases List.mem_cons.1 hf with rfl | hf
      · refine ⟨by omega, ?_, ?_⟩
        · rw [List.length_append, List.length_append, hgap]
          omega
        · rw [List.append_assoc, List.drop_left' hgap, List.take_left]
      · obtain ⟨hle, hstop, hslice⟩ := ih hrest hf
        refine ⟨by omega, ?_, ?_⟩
        · rw [List.length_append, List.length_append, hgap]
          omega
        · have hfront : f.pos.toNat - cursor =
              (List.replicate (g.pos.toNat - cursor) (0 : UInt8) ++ g.code).length +
                (f.pos.toNat - (g.pos.toNat + g.code.length)) := by
            rw [List.length_append, hgap]
            omega
          rw [hfront, ← List.drop_drop, List.drop_left]
          exact hslice

theorem stop_of_layCode {cursor : Nat} {fs : List FunctionEntry} {code : Bytes}
    (h : Script.layCode cursor fs = .ok code) :
    code.length = 0 ∨ ∃ f ∈ fs, f.pos.toNat + f.code.length = cursor + code.length := by
  induction fs generalizing cursor code with
  | nil =>
    obtain rfl := Except.ok.inj h
    exact .inl rfl
  | cons f fs ih =>
    rw [Script.layCode] at h
    split at h
    · exact nomatch h
    · rename_i hcursor
      obtain ⟨rest, hrest, rfl⟩ := Outcome.map_eq_ok_iff.1 h
      rw [List.length_append, List.length_append, List.length_replicate]
      rcases ih hrest with hnil | ⟨g, hg, hstop⟩
      · exact .inr ⟨f, List.mem_cons_self, by omega⟩
      · exact .inr ⟨g, List.mem_cons_of_mem f hg, by omega⟩

theorem zero_of_layCode {cursor : Nat} {fs : List FunctionEntry} {code : Bytes}
    (h : Script.layCode cursor fs = .ok code) {i : Nat} (hi : i < code.length)
    (hfree : ∀ f ∈ fs, cursor + i < f.pos.toNat ∨ f.pos.toNat + f.code.length ≤ cursor + i) :
    code[i]? = some 0 := by
  induction fs generalizing cursor code i with
  | nil =>
    obtain rfl := Except.ok.inj h
    exact absurd hi (Nat.not_lt_zero i)
  | cons f fs ih =>
    rw [Script.layCode] at h
    split at h
    · exact nomatch h
    · rename_i hcursor
      obtain ⟨rest, hrest, rfl⟩ := Outcome.map_eq_ok_iff.1 h
      have hgap : (List.replicate (f.pos.toNat - cursor) (0 : UInt8)).length =
          f.pos.toNat - cursor := List.length_replicate
      rw [List.length_append, List.length_append, hgap] at hi
      -- the byte is in the gap before the first function, or behind that function
      rcases hfree f List.mem_cons_self with hbefore | hbehind
      · rw [List.append_assoc, List.getElem?_append_left (by omega), List.getElem?_replicate,
          if_pos (by omega)]
      · have hfront : (List.replicate (f.pos.toNat - cursor) (0 : UInt8) ++ f.code).length ≤ i := by
          rw [List.length_append, hgap]
          omega
        rw [List.getElem?_append_right hfront, List.length_append, hgap]
        apply ih hrest (by omega)
        intro g hg
        have := hfree g (List.mem_cons_of_mem f hg)
        omega

/-! ### Name -/

theorem trimName_padded {name : Bytes} (hlen : name.length ≤ maxNameLength) (hzero : 0 ∉ name) :
    trimName (Field.padded name nameWidth) = name := by
  have hshort : name.length < nameWidth := Nat.lt_of_le_of_lt hlen (by decide)
  have hkeep : name.take nameWidth = name := List.take_of_length_le (Nat.le_of_lt hshort)
  have hpad : nameWidth - name.length = nameWidth - name.length - 1 + 1 := by omega
  have hall : ∀ b ∈ name, decide (b ≠ 0) = true := by
    intro b hb
    rw [decide_eq_true_eq]
    rintro rfl
    exact hzero hb
  rw [trimName, Field.padded, hkeep, hpad, List.replicate_succ,
    List.takeWhile_append_of_pos hall, List.takeWhile_cons_of_neg (by decide), List.append_nil]

theorem zero_of_mem_dropWhile_padded {name : Bytes} {width : Nat} (hzero : 0 ∉ name) :
    ∀ b ∈ (Field.padded name width).dropWhile (· ≠ 0), b = 0 := by
  have hkept : ∀ b ∈ name.take width, decide (b ≠ 0) = true := by
    intro b hb
    rw [decide_eq_true_eq]
    rintro rfl
    exact hzero (List.mem_of_mem_take hb)
  intro b hb
  rw [Field.padded, List.dropWhile_append_of_pos hkept] at hb
  exact List.eq_of_mem_replicate ((List.dropWhile_sublist _).mem hb)

theorem padded_trimName {field : Bytes} {width : Nat} (hlen : field.length = width)
    (hzero : ∀ b ∈ field.dropWhile (· ≠ 0), b = 0) :
    Field.padded (trimName field) width = field := by
  have hsplit : trimName field ++ field.dropWhile (· ≠ 0) = field := List.takeWhile_append_dropWhile
  have hsum := congrArg List.length hsplit
  rw [List.length_append, hlen] at hsum
  have hrest : field.dropWhile (· ≠ 0) = List.replicate (width - (trimName field).length) 0 :=
    List.eq_replicate_iff.2 ⟨by omega, hzero⟩
  rw [Field.padded, List.take_of_length_le (by omega), ← hrest, hsplit]

theorem checkName_eq_ok_iff {name : Bytes} :
    Script.checkName name = .ok () ↔ name.length ≤ maxNameLength ∧ 0 ∉ name := by
  by_cases hlen : maxNameLength < name.length
  · rw [Script.checkName, if_pos hlen]
    exact ⟨nofun, fun h => absurd h.1 (by omega)⟩
  · by_cases hzero : 0 ∈ name
    · rw [Script.checkName, if_neg hlen, if_pos hzero]
      exact ⟨nofun, fun h => absurd hzero h.2⟩
    · rw [Script.checkName, if_neg hlen, if_neg hzero]
      exact ⟨fun _ => ⟨by omega, hzero⟩, fun _ => rfl⟩

end NovelScript.Container
