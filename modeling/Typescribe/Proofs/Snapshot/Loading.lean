import Typescribe.Proofs.Snapshot.Contents
import Typescribe.Proofs.Snapshot.Regular
import Typescribe.Snapshot.Loading

/-!
This module contains how the loading of a data model can end: with its contents, with a fault of its
source, or with a cause that passes for no such fault.
-/

namespace Typescribe.Snapshot

variable {σ : Type}

inductive EndsLoading (Escapes : Cause → Prop) : Except Fault Contents → Prop where
  | loaded (contents : Contents) : EndsLoading Escapes (.ok contents)
  | refused (problem : SourceProblem) : EndsLoading Escapes (.error (.source problem))
  | escaped {cause : Cause} (h : Escapes cause) : EndsLoading Escapes (.error (.foreign cause))

/-- The causes that escape from the reading of a document that is not regular. -/
inductive EscapesReading (document : Value) : Cause → Prop where
  | noMembers (irregular : ¬IsRegular document) : EscapesReading document .noMembers
  | badValue (irregular : ¬IsRegular document) (text : String) :
    EscapesReading document (.badValue text)

/-- The text that the file at a path holds, with line feeds as its only line ends. -/
def HasText (files : FileTree) (path : FilePath) (text : String) : Prop :=
  ∃ bytes cs, files.read path = .ok bytes ∧ Text.decodeUtf8 bytes = some cs
    ∧ text = String.ofList (Text.unifyNewlines cs)

/--
The causes that escape from the loading of a file. It is assumed that reading never runs out of
stack, however deep a document nests: a limit on the depth of recursion is not modelled.
-/
inductive EscapesLoading (files : FileTree) (path : FilePath) : Cause → Prop where
  | unusablePath (h : path.isUsable = false) :
    EscapesLoading files path (.badValue "embedded null byte")
  | undecodable {bytes : List Nat} (read : files.read path = .ok bytes)
    (h : Text.decodeUtf8 bytes = none) : EscapesLoading files path .undecodableText
  | tooManyDigits {text : String} {count : Nat} (read : HasText files path text)
    (json : isJsonFile path) (h : Json.read text = .error (.tooManyDigits count)) :
    EscapesLoading files path (.badValue (Decimal.tooLongText count))
  | unbuilt {text : String} {cause : Cause} (read : HasText files path text)
    (yaml : isJsonFile path = false) (h : Yaml.read text = .error cause)
    (wellFormed : cause ≠ .malformedYaml) : EscapesLoading files path cause
  | irregular {text : String} {document : Value} {cause : Cause} (read : HasText files path text)
    (h : readDocument (isJsonFile path) text = .ok document)
    (escapes : EscapesReading (unwrap document) cause) : EscapesLoading files path cause

namespace EndsLoading

variable {P Q : Cause → Prop} {result : Except Fault Contents}

theorem mono (h : EndsLoading P result) (weaker : ∀ cause, P cause → Q cause) :
    EndsLoading Q result := by
  cases h with
  | loaded contents => exact .loaded contents
  | refused problem => exact .refused problem
  | escaped h => exact .escaped (weaker _ h)

theorem report {step : Step σ Contents} {s : Session σ} (record : Contents → Log.Record)
    (h : EndsLoading P (step.run.run s).1) :
    EndsLoading P ((do
      let contents ← step
      Step.write (record contents)
      return contents : Step σ Contents).run.run s).1 := by
  rw [Step.run_bind]
  rcases ran : step.run.run s with ⟨fault | contents, t⟩
  · rw [ran] at h
    exact h
  · exact .loaded contents

end EndsLoading

theorem endsLoading_malformed {document : Value} {cause : Cause}
    (h : Mishap (IsRegular document) cause) :
    EndsLoading (EscapesReading document) (.error (malformed (.foreign cause))) := by
  cases h with
  | missingKey key => exact .refused _
  | wrongKind => exact .refused _
  | invalid model issues => exact .refused _
  | noMembers irregular => exact .escaped (.noMembers irregular)
  | badValue text irregular => exact .escaped (.badValue irregular text)

theorem endsLoading_parse (document : Value) (s : Session σ) :
    EndsLoading (EscapesReading document) ((parse document).run.run s).1 := by
  by_cases opened : HasMembers document
  · have mishaps := (failsByMishap_contentsOf document).mono fun regular => ⟨opened, regular⟩
    obtain ⟨pairs, opened⟩ := opened
    rw [(isPlain_parse opened).fst_run]
    rcases read : contentsOf document with cause | contents
    · exact endsLoading_malformed (mishaps cause read)
    · exact .loaded contents
  · rw [run_parse_of_not_mapping (not_exists.mp opened)]
    exact .refused .noMapping

section Files

variable {files : FileTree} {path : FilePath} {text : String}

theorem run_readText {s : Session FileTree} (usable : path.isUsable)
    (h : HasText s.state path text) : (readText path).run.run s = (.ok text, s) := by
  obtain ⟨bytes, cs, read, decoded, rfl⟩ := h
  unfold readText
  rw [usable, Bool.not_true, if_neg Bool.false_ne_true, Step.run_bind_of_ok Step.run_state, read]
  simp only [decoded]
  rfl

theorem readText_cases (path : FilePath) (s : Session FileTree) :
    (path.isUsable ∧ ∃ text, HasText s.state path text)
      ∨ ∃ fault, (readText path).run.run s = (.error fault, s)
        ∧ EndsLoading (EscapesLoading s.state path) (.error fault) := by
  by_cases usable : path.isUsable
  · rcases read : s.state.read path with fault | bytes
    · refine .inr ⟨.source (.unreadable path.text (.file fault)), ?_, .refused _⟩
      unfold readText
      rw [usable, Bool.not_true, if_neg Bool.false_ne_true, Step.run_bind_of_ok Step.run_state,
        read]
      rfl
    · rcases decoded : Text.decodeUtf8 bytes with _ | cs
      · refine .inr ⟨.foreign .undecodableText, ?_, .escaped (.undecodable read decoded)⟩
        unfold readText
        rw [usable, Bool.not_true, if_neg Bool.false_ne_true, Step.run_bind_of_ok Step.run_state,
          read]
        simp only [decoded]
        rfl
      · exact .inl ⟨usable, _, bytes, cs, read, decoded, rfl⟩
  · rw [Bool.not_eq_true] at usable
    refine .inr ⟨_, ?_, .escaped (.unusablePath usable)⟩
    unfold readText
    rw [usable, Bool.not_false, if_pos rfl]
    rfl

theorem fst_run_load_of_error {s : Session FileTree} {cause : Cause} (usable : path.isUsable)
    (hasText : HasText s.state path text)
    (read : readDocument (isJsonFile path) text = .error cause) :
    ((load path).run.run s).1 = .error (unparsable path cause) := by
  unfold load
  rw [Step.run_bind_of_ok (run_readText usable hasText), Step.run_bind, Step.run_ofExcept, read]
  rfl

theorem fst_run_load_of_ok {s : Session FileTree} {document : Value} (usable : path.isUsable)
    (hasText : HasText s.state path text)
    (read : readDocument (isJsonFile path) text = .ok document) :
    ((load path).run.run s).1 = ((parse (unwrap document)).run.run s).1 := by
  unfold load
  rw [Step.run_bind_of_ok (run_readText usable hasText), Step.run_bind, Step.run_ofExcept, read]
  simp only [Except.mapError]
  rw [Step.run_bind]
  rcases (parse (unwrap document)).run.run s with ⟨_ | _, t⟩
  · rfl
  · rfl

theorem endsLoading_unparsable (read : HasText files path text) {cause : Cause}
    (h : readDocument (isJsonFile path) text = .error cause) :
    EndsLoading (EscapesLoading files path) (.error (unparsable path cause)) := by
  unfold readDocument at h
  split at h
  · next json =>
    unfold readJson at h
    split at h
    · cases h
    · cases h
      exact .refused _
    · next tooLong =>
      cases h
      exact .escaped (.tooManyDigits read json tooLong)
  · next yaml =>
    unfold unparsable
    split
    · exact .refused _
    · exact .refused _
    · next wellFormed =>
      exact .escaped (.unbuilt read (Bool.eq_false_iff.mpr yaml) h wellFormed)

theorem endsLoading_load (path : FilePath) (s : Session FileTree) :
    EndsLoading (EscapesLoading s.state path) ((load path).run.run s).1 := by
  rcases readText_cases path s with ⟨usable, text, hasText⟩ | ⟨fault, read, ends⟩
  · rcases read : readDocument (isJsonFile path) text with cause | document
    · rw [fst_run_load_of_error usable hasText read]
      exact endsLoading_unparsable hasText read
    · rw [fst_run_load_of_ok usable hasText read]
      apply (endsLoading_parse (unwrap document) s).mono
      intro cause escapes
      exact .irregular hasText read escapes
  · unfold load
    rw [Step.run_bind_of_error read]
    exact ends

theorem isWellFormed_of_yields_load {s t : Session FileTree} {contents : Contents}
    (h : Step.Yields (load path) s contents t) : contents.IsWellFormed := by
  unfold load at h
  obtain ⟨text, u, -, h⟩ := Step.yields_bind.mp h
  obtain ⟨document, v, -, h⟩ := Step.yields_bind.mp h
  obtain ⟨contents, w, parsed, h⟩ := Step.yields_bind.mp h
  obtain ⟨_, x, -, h⟩ := Step.yields_bind.mp h
  obtain ⟨rfl, -⟩ := Step.yields_pure.mp h
  exact isWellFormed_of_contentsOf (contentsOf_of_yields_parse parsed)

theorem keepsState_readText (path : FilePath) : Step.KeepsState (readText path) := by
  unfold readText
  split
  · exact .fail _
  · apply Step.KeepsState.state.bind
    intro files
    split
    · exact .fail _
    · split
      · exact .fail _
      · exact .pure _

theorem keepsState_parse (document : Value) : Step.KeepsState (parse document : Step σ _) := by
  by_cases opened : HasMembers document
  · obtain ⟨pairs, opened⟩ := opened
    exact (isPlain_parse opened).keepsState
  · intro s
    rw [run_parse_of_not_mapping (not_exists.mp opened)]

theorem keepsState_load (path : FilePath) : Step.KeepsState (load path) := by
  unfold load
  apply (keepsState_readText path).bind
  intro text
  apply (Step.KeepsState.ofExcept _).bind
  intro document
  apply (keepsState_parse (unwrap document)).bind
  intro contents
  exact (Step.KeepsState.write _).bind fun _ => .pure contents

end Files

end Typescribe.Snapshot
