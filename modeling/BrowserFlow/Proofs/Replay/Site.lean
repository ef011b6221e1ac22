import BrowserFlow.Proofs.Result
import BrowserFlow.Replay.Host

/-!
The site of a URL. Its host can be taken just if the brackets of its authority belong together and enclose an address,
and if none of its characters stands for a delimiter.
-/

namespace BrowserFlow.Host

/-- What may stand in brackets. -/
def IsAddress (cs : List Char) : Prop :=
  if cs.head? = some 'v' then isLaterVersion cs = true else isFourthVersion cs = false ∧ isSixthVersion cs = true

structure WellFormed (authority : List Char) : Prop where
  paired : '[' ∈ authority ↔ ']' ∈ authority
  address : ∀ front rest, cut? '[' authority = some (front, rest) → IsAddress (rest.takeWhile (· != ']'))
  plain : ∀ c ∈ authority, hidesDelimiter c = false

theorem checkBracketed_ok {cs : List Char} : checkBracketed cs = .ok () ↔ IsAddress cs := by
  unfold checkBracketed IsAddress
  simp only [beq_iff_eq]
  split
  · cases isLaterVersion cs <;> simp
  · cases isFourthVersion cs <;> cases isSixthVersion cs <;> simp

theorem checkBracketed_error {cs : List Char} {fault : Fault} (fails : checkBracketed cs = .error fault) :
    ∃ text, fault = .malformedHost text := by
  unfold checkBracketed at fails
  split at fails
  · split at fails <;> cases fails
    exact ⟨_, rfl⟩
  · split at fails
    · cases fails
      exact ⟨_, rfl⟩
    · split at fails <;> cases fails
      exact ⟨_, rfl⟩

theorem checkAuthority_ok {cs : List Char} : checkAuthority cs = .ok () ↔ WellFormed cs := by
  have paired : (cs.contains '[' != cs.contains ']') = true ↔ ¬('[' ∈ cs ↔ ']' ∈ cs) := by
    rw [← List.contains_iff_mem, ← List.contains_iff_mem, bne_iff_ne, ne_eq, Bool.eq_iff_iff]
  have plain : cs.any hidesDelimiter = true ↔ ¬∀ c ∈ cs, hidesDelimiter c = false := by simp
  unfold checkAuthority
  split
  · rename_i apart
    exact ⟨nofun, fun formed => absurd formed.paired (paired.mp apart)⟩
  · rename_i together
    have together : '[' ∈ cs ↔ ']' ∈ cs := Classical.byContradiction fun apart => together (paired.mpr apart)
    have shown : (if cs.any hidesDelimiter then .error (.malformedHost ("netloc '" ++ String.ofList cs ++
        "' contains invalid characters under NFKC normalization")) else pure () : Except Fault Unit) = .ok () ↔
        ∀ c ∈ cs, hidesDelimiter c = false := by
      split
      · rename_i hidden
        exact ⟨nofun, fun all => absurd all (plain.mp hidden)⟩
      · rename_i hidden
        exact ⟨fun _ => Classical.byContradiction fun some => hidden (plain.mpr some), fun _ => rfl⟩
    cases brackets : cut? '[' cs with
    | none => exact ⟨fun fits => ⟨together, by simp [brackets], shown.mp fits⟩, fun formed => shown.mpr formed.plain⟩
    | some parts =>
      obtain ⟨front, rest⟩ := parts
      constructor
      · intro fits
        obtain ⟨_, checked, fits⟩ := bind_ok fits
        refine ⟨together, fun front rest same => ?_, shown.mp fits⟩
        cases brackets.symm.trans same
        exact checkBracketed_ok.mp checked
      · intro formed
        dsimp only
        rw [checkBracketed_ok.mpr (formed.address front rest brackets)]
        exact shown.mpr formed.plain

theorem checkAuthority_error {cs : List Char} {fault : Fault} (fails : checkAuthority cs = .error fault) :
    ∃ text, fault = .malformedHost text := by
  unfold checkAuthority at fails
  split at fails
  · cases fails
    exact ⟨_, rfl⟩
  · have hidden {text : String}
        (fails : (if cs.any hidesDelimiter then .error (.malformedHost text) else pure () : Except Fault Unit) =
          .error fault) : ∃ text, fault = .malformedHost text := by
      split at fails <;> cases fails
      exact ⟨_, rfl⟩
    cases brackets : cut? '[' cs with
    | none =>
      rw [brackets] at fails
      exact hidden fails
    | some parts =>
      rw [brackets] at fails
      rcases bind_error fails with fails | ⟨_, _, fails⟩
      · exact checkBracketed_error fails
      · exact hidden fails

theorem ofUrl_ok {url : String} : (∃ host, ofUrl url = .ok host) ↔ WellFormed (authority url.toList) := by
  rw [← checkAuthority_ok]
  constructor
  · rintro ⟨host, taken⟩
    obtain ⟨_, checked, _⟩ := bind_ok taken
    exact checked
  · intro checked
    exact ⟨_, by rw [ofUrl, checked]; rfl⟩

theorem ofUrl_error {url : String} {fault : Fault} (fails : ofUrl url = .error fault) :
    ∃ text, fault = .malformedHost text := by
  rcases bind_error fails with fails | ⟨_, _, fails⟩
  · exact checkAuthority_error fails
  · cases fails

end BrowserFlow.Host
