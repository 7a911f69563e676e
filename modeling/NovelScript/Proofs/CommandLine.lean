import NovelScript.Proofs.Outcome
import NovelScript.Tool.Arguments

/-!
Command lines that are answered with information about the tool. One of their arguments asks for it:
what an option that takes a value is followed by never does (`exists_of_parse`).
-/

namespace NovelScript.Arguments

/-- An argument that can ask for information about a tool: one of the two options under its long
name, or letters with one of theirs. -/
def AsksForInformation : Text → Prop
  | '-' :: '-' :: name => name = "help".toList ∨ name = "version".toList
  | '-' :: letters => 'h' ∈ letters ∨ 'V' ∈ letters
  | _ => False

def IsAsked (option : ToolOption) : Prop := option = .help ∨ option = .version

theorem IsAsked.not_takesValue {option : ToolOption} (h : IsAsked option) :
    ¬ option.takesValue := by
  rcases h with rfl | rfl <;> exact Bool.false_ne_true

/-- A part of the command line that may leave an option waiting for its value, and that asks for
information only if `asks` holds. -/
def Sensible (asks : Prop) : Except Refusal State → Prop
  | .ok s => ∀ option, s.waiting? = some option → option.takesValue
  | .error .information => asks
  | .error .usage => True

theorem isAsked_of_found {option : ToolOption} {value : Text} {before : Found}
    (h : found option value before = .error .information) : IsAsked option := by
  rw [found] at h
  split at h
  · exact nomatch h
  split at h
  · assumption
  · exact nomatch h

theorem sensible_found {asks : Prop} {option : ToolOption} (h : IsAsked option → asks)
    (value : Text) (before : Found) :
    Sensible asks ((found option value before).map fun before => { found := before }) := by
  cases hfound : found option value before with
  | ok before => exact fun _ hwaiting => nomatch hwaiting
  | error refusal =>
    cases refusal with
    | usage => trivial
    | information => exact h (isAsked_of_found hfound)

theorem sensible_waiting {asks : Prop} {option : ToolOption} (h : option.takesValue)
    (before : Found) :
    Sensible asks (.ok { found := before, waiting? := some option }) := by
  rintro _ ⟨⟩
  exact h

theorem Sensible.mono {asks asks' : Prop} (h : asks → asks') {x : Except Refusal State}
    (hx : Sensible asks x) : Sensible asks' x := by
  match x with
  | .ok s => exact hx
  | .error .information => exact h hx
  | .error .usage => trivial

theorem sensible_letters (tool : Tool) (t : Text) (before : Found) :
    Sensible ('h' ∈ t ∨ 'V' ∈ t) (letters tool t before) := by
  induction t generalizing before with
  | nil => exact fun _ hwaiting => nomatch hwaiting
  | cons c rest ih =>
    rw [letters]
    split
    · trivial
    rename_i option hoption
    have hletter : option.letter? = some c := by simpa using List.find?_some hoption
    have hasks (h : IsAsked option) : 'h' ∈ c :: rest ∨ 'V' ∈ c :: rest := by
      rcases h with rfl | rfl
      · obtain rfl := Option.some.inj hletter
        exact .inl List.mem_cons_self
      · obtain rfl := Option.some.inj hletter
        exact .inr List.mem_cons_self
    split
    · rename_i hvalue
      split
      · exact sensible_waiting hvalue before
      · exact sensible_found hasks _ before
    split
    · exact (ih _).mono (Or.imp (List.mem_cons_of_mem c) (List.mem_cons_of_mem c))
    · rename_i refusal hfound
      cases refusal with
      | usage => trivial
      | information => exact hasks (isAsked_of_found hfound)

theorem sensible_long (tool : Tool) (t : Text) (before : Found) :
    Sensible (t = "help".toList ∨ t = "version".toList) (long tool t before) := by
  rw [long]
  cases t.splitAtFirst (· = '=') with
  | some parts =>
    dsimp only
    split
    · trivial
    · split
      · rename_i hvalue
        exact sensible_found (fun h => absurd hvalue h.not_takesValue) _ before
      · trivial
    · rename_i heq
      exact nomatch heq
  | none =>
    dsimp only
    split
    · trivial
    · rename_i heq
      exact nomatch heq
    · rename_i option hoption _
      have hname : option.longName.toList = t := by simpa using List.find?_some hoption
      split
      · rename_i hvalue
        exact sensible_waiting hvalue before
      · refine sensible_found ?_ [] before
        rintro (rfl | rfl)
        · exact .inl hname.symm
        · exact .inr hname.symm

theorem asksForInformation_of_letters {t : Text} (hoption : isOption t)
    (hlong : ∀ name, t = '-' :: '-' :: name → False) (h : 'h' ∈ t.tail ∨ 'V' ∈ t.tail) :
    AsksForInformation t := by
  cases t with
  | nil => exact nomatch hoption
  | cons c letters =>
    obtain rfl : c = '-' := by
      simp [isOption] at hoption
      exact hoption.1
    rw [AsksForInformation]
    · exact h
    · rintro name rfl
      exact hlong name rfl

theorem exists_of_readAll {tool : Tool} {argv : List Text} {s : State}
    (hs : ∀ option, s.waiting? = some option → option.takesValue)
    (h : readAll tool argv s = .error .information) : ∃ t ∈ argv, AsksForInformation t := by
  -- On the arguments. What waits for its value is not one of the two options, since it takes one.
  induction argv generalizing s with
  | nil =>
    rw [readAll] at h
    split at h <;> exact nomatch h
  | cons t rest ih =>
    have hrest {s : State} (hs : ∀ option, s.waiting? = some option → option.takesValue)
        (h : readAll tool rest s = .error .information) :
        ∃ t' ∈ t :: rest, AsksForInformation t' := by
      obtain ⟨t', ht', hasks⟩ := ih hs h
      exact ⟨t', List.mem_cons_of_mem t ht', hasks⟩
    rw [readAll] at h
    split at h
    · rename_i option hwaiting
      split at h
      · exact nomatch h
      rcases Outcome.bind_eq_error_iff.1 h with hfound | ⟨before, -, hmore⟩
      · exact absurd (hs option hwaiting) (isAsked_of_found hfound).not_takesValue
      · refine hrest ?_ hmore
        exact fun _ hwaiting => nomatch hwaiting
    · split at h
      · split at h <;> exact nomatch h
      split at h
      · exact nomatch h
      rename_i hoption
      obtain ⟨next?, hnext, h⟩ : ∃ next?, Sensible (AsksForInformation t) next? ∧
          (next? >>= readAll tool rest) = .error .information := by
        split at h
        · exact ⟨_, sensible_long tool _ s.found, h⟩
        · rename_i hlong
          refine ⟨_, (sensible_letters tool t.tail s.found).mono ?_, h⟩
          exact asksForInformation_of_letters (not_not.1 hoption) hlong
      rcases Outcome.bind_eq_error_iff.1 h with herror | ⟨next, hok, hmore⟩
      · rw [herror] at hnext
        exact ⟨t, List.mem_cons_self, hnext⟩
      · rw [hok] at hnext
        exact hrest hnext hmore

theorem required_ne_information {options : Found} {option : ToolOption} :
    required options option ≠ .error .information := by
  rw [required]
  split <;> exact nofun

theorem exists_of_parse {tool : Tool} {argv : List Text}
    (h : parse tool argv = .error .information) : ∃ t ∈ argv, AsksForInformation t := by
  rw [parse] at h
  rcases Outcome.bind_eq_error_iff.1 h with h | ⟨options, -, h⟩
  · refine exists_of_readAll ?_ h
    exact fun _ hwaiting => nomatch hwaiting
  rcases Outcome.bind_eq_error_iff.1 h with h | ⟨input, -, h⟩
  · exact absurd h required_ne_information
  rcases Outcome.bind_eq_error_iff.1 h with h | ⟨output, -, h⟩
  · exact absurd h required_ne_information
  · exact nomatch h

end NovelScript.Arguments
