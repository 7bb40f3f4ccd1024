/-
What the words of a command line ask for. The version and the usage are
shown only when a word asks for it: by a beginning of the switch's name,
or by its letter, also among others. All other command lines ask for a
run, or for nothing that can be done.

The reader goes from word to word and stops at the first that asks for
something to be shown, so the induction is its own recursion.
-/
import TildeFormat.CommandLine.Invocation

namespace TildeFormat.CommandLine

variable {words : List Word} {request : Request}

/-- A word that is a switch, by its name or as one of its letters. -/
def Word.Spells (s : Switch) : Word → Prop
  | .switch named _ => named = s
  | .letters first more => ∃ switches left,
    readLetters first more = .ok (switches, left) ∧ s ∈ switches
  | _ => False

/-- A request that is not for a run is spelled by one of the words. -/
def Request.AskedBy (words : List Word) : Request → Prop
  | .run _ => True
  | .help => ∃ w ∈ words, w.Spells .help
  | .version => ∃ w ∈ words, w.Spells .version

/-- More words ask for no less. -/
theorem Request.AskedBy.cons (h : request.AskedBy words) (w : Word) :
    request.AskedBy (w :: words) := by
  cases request with
  | run => trivial
  | help | version =>
      obtain ⟨asking, hmem, hspells⟩ := h
      exact ⟨asking, List.mem_cons_of_mem _ hmem, hspells⟩

/-- Switches without values ask for what one of them is for. -/
theorem Invocation.askedBy_of_switching {i : Invocation}
    {switches : List Switch} {w : Word}
    (hw : ∀ s ∈ switches, w.Spells s)
    (h : i.switching switches = .error request) :
    request.AskedBy (w :: words) := by
  fun_induction Invocation.switching i switches with
  | case1 => cases h
  | case2 | case3 =>
      cases h
      exact ⟨w, List.mem_cons_self, hw _ List.mem_cons_self⟩
  | case4 _ _ ih | case5 _ _ ih =>
      exact ih (fun s hs => hw s (List.mem_cons_of_mem _ hs)) h
  | case6 _ _ _ _ _ _ _ ih =>
      exact ih (fun s hs => hw s (List.mem_cons_of_mem _ hs)) h

/-- What the reader gives is asked for by the words. -/
theorem WordReader.askedBy_of_read {r : WordReader}
    (h : r.read words = .ok request) : request.AskedBy words := by
  fun_induction WordReader.read r words with
  | case1 =>
      cases h
      trivial
  | case2 | case6 | case11 | case12 => cases h
  | case3 _ _ _ ih | case4 _ _ ih | case5 _ _ _ ih => exact (ih h).cons _
  | case7 _ first more _ switches left hletters _ hswitching =>
      cases h
      exact Invocation.askedBy_of_switching
        (fun s hs => ⟨switches, left, hletters, hs⟩) hswitching
  | case8 _ _ _ _ _ _ _ _ _ ih => exact (ih h).cons _
  | case9 _ _ _ _ _ ih => exact (ih h).cons _
  | case10 _ _ _ _ _ ih => exact ((ih h).cons _).cons _
  | case13 _ s _ _ _ hswitching =>
      cases h
      exact Invocation.askedBy_of_switching
        (fun _ hs => (List.mem_singleton.mp hs).symm) hswitching
  | case14 _ _ _ _ _ _ ih => exact (ih h).cons _

/-- A command line without a word for the usage or the version. -/
def AsksNoInformation (arguments : List Text) : Prop :=
  ∀ words, Word.ofTexts arguments = .ok words →
    ∀ w ∈ words, ¬w.Spells .help ∧ ¬w.Spells .version

/-- It is enough to look at the words there are. -/
theorem asksNoInformation_of_ofTexts {arguments : List Text}
    (hwords : Word.ofTexts arguments = .ok words)
    (h : ∀ w ∈ words, ¬w.Spells .help ∧ ¬w.Spells .version) :
    AsksNoInformation arguments := by
  intro others hothers
  cases hwords.symm.trans hothers
  exact h

/-- Then it asks for a run, if for anything. -/
theorem AsksNoInformation.exists_run {arguments : List Text}
    (hasks : AsksNoInformation arguments)
    (h : Request.ofTexts arguments = .ok request) :
    ∃ i, request = .run i := by
  unfold Request.ofTexts at h
  cases hwords : Word.ofTexts arguments with
  | error fault =>
      rw [hwords] at h
      cases h
  | ok words =>
      rw [hwords] at h
      have hasked := WordReader.askedBy_of_read h
      cases request with
      | run i => exact ⟨i, rfl⟩
      | help =>
          obtain ⟨w, hw, hspells⟩ := hasked
          exact absurd hspells (hasks words hwords w hw).1
      | version =>
          obtain ⟨w, hw, hspells⟩ := hasked
          exact absurd hspells (hasks words hwords w hw).2

end TildeFormat.CommandLine
