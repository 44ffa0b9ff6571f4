import Typescribe.Proofs.Choices.Blind
import Typescribe.Proofs.Declaration.Failures
import Typescribe.Proofs.Text.Split

/-!
This module contains what lenient types change: one word in the lines of the fields whose type is not
supported, and nothing else of the declarations.
-/

namespace Typescribe.Declaration

variable {σ : Type} {config other : Config} {schema : Schema} {choices : ChoiceSource σ}
  {collection : Collection} {s t u v : Session σ}

def Config.strict (config : Config) : Config := { config with lenientTypes := false }

def Config.lenient (config : Config) : Config := { config with lenientTypes := true }

/-! ### The two runs -/

theorem isBlind_resolveField (blind : choices.IsBlind) (field : Field) :
    Step.IsBlind (resolveField config schema choices collection field) := by
  unfold resolveField
  simp only
  split
  · exact .pure _
  · exact .pure _
  · apply (blind.safeLookup _ _).bind
    intro definition
    split
    · exact (Step.IsBlind.write _).bind fun _ => .pure _
    · exact .pure _
    · exact .pure _

theorem resolveField_of_jsonType (types : other.jsonType = config.jsonType) (field : Field) :
    resolveField other schema choices collection field
      = resolveField config schema choices collection field := by
  unfold resolveField
  rw [types]

theorem eq_of_resolvedInTurn (blind : choices.IsBlind) (types : other.jsonType = config.jsonType)
    {resolved others : List Resolved} (same : s.state = u.state)
    (fields : resolved.map (·.field) = others.map (·.field))
    (first : ResolvedInTurn config schema choices collection s resolved t)
    (second : ResolvedInTurn other schema choices collection u others v) :
    resolved = others ∧ t.state = v.state := by
  -- The second run takes the steps of the first one, as both resolve the same fields.
  induction first generalizing u others with
  | nil =>
    cases second with
    | nil => exact ⟨rfl, same⟩
    | cons => cases fields
  | cons head kept tail ih =>
    cases second with
    | nil => cases fields
    | cons head' kept' tail' =>
      obtain ⟨field, others⟩ := List.cons.inj fields
      cases field
      rw [resolveField_of_jsonType types] at head'
      obtain ⟨rfl, left⟩ := (isBlind_resolveField blind _).eq_of_yields same head head'
      obtain ⟨rfl, last⟩ := ih (kept.trans (left.trans kept'.symm)) others tail'
      exact ⟨rfl, last⟩

theorem eq_of_renderedInTurn (blind : choices.IsBlind) (types : other.jsonType = config.jsonType)
    {rendered others : List Rendered} (same : s.state = u.state)
    (collections : rendered.map (·.collection) = others.map (·.collection))
    (first : RenderedInTurn config schema choices s rendered t)
    (second : RenderedInTurn other schema choices u others v) :
    rendered = others ∧ t.state = v.state := by
  induction first generalizing u others with
  | nil =>
    cases second with
    | nil => exact ⟨rfl, same⟩
    | cons => cases collections
  | cons kept head whole tail ih =>
    cases second with
    | nil => cases collections
    | cons kept' head' whole' tail' =>
      obtain ⟨collection, others⟩ := List.cons.inj collections
      cases collection
      obtain ⟨rfl, left⟩ := eq_of_resolvedInTurn blind types (kept.trans (same.trans kept'.symm))
        (whole.trans whole'.symm) head head'
      obtain ⟨rfl, last⟩ := ih left others tail'
      exact ⟨rfl, last⟩

/-! ### The lines -/

/-- The line that declares a field without a type, with the word for its type. -/
def failedLine (fault : FieldFault) (word : String) : String :=
  "  " ++ Naming.propertyKey fault.field ++ ": " ++ word ++ ";"

/--
Lines that are the same but for those of fields without a type, which are given in order. Where a type
is not supported, the first list says `never` and the second one `unknown`; else both say `never`.
-/
inductive SameBut : List FieldFault → List String → List String → Prop where
  | nil : SameBut [] [] []
  | same {faults : List FieldFault} {lines others : List String} (line : String)
    (rest : SameBut faults lines others) : SameBut faults (line :: lines) (line :: others)
  | unsupported {fault : FieldFault} {faults : List FieldFault} {lines others : List String}
    {tag : String} (problem : fault.problem = .unsupportedType tag)
    (rest : SameBut faults lines others) :
    SameBut (fault :: faults) (failedLine fault "never" :: lines)
      (failedLine fault "unknown" :: others)
  | failed {fault : FieldFault} {faults : List FieldFault} {lines others : List String}
    (problem : ∀ tag, fault.problem ≠ .unsupportedType tag) (rest : SameBut faults lines others) :
    SameBut (fault :: faults) (failedLine fault "never" :: lines)
      (failedLine fault "never" :: others)

namespace SameBut

theorem refl (lines : List String) : SameBut [] lines lines := by
  induction lines with
  | nil => exact .nil
  | cons line lines ih => exact .same line ih

theorem append {faults more : List FieldFault} {lines others behind after : List String}
    (front : SameBut faults lines others) (back : SameBut more behind after) :
    SameBut (faults ++ more) (lines ++ behind) (others ++ after) := by
  induction front with
  | nil => exact back
  | same line _ ih => exact .same line ih
  | unsupported problem _ ih => exact .unsupported problem ih
  | failed problem _ ih => exact .failed problem ih

theorem before {faults : List FieldFault} {lines others : List String} (front : List String)
    (h : SameBut faults lines others) : SameBut faults (front ++ lines) (front ++ others) :=
  (refl front).append h

theorem block (config : Config) (collection : Collection) (r : Resolved) :
    SameBut (r.failure? collection).toList (r.block config.strict) (r.block config.lenient) := by
  obtain ⟨field, resolution⟩ := r
  cases resolution with
  | ok type => exact refl _
  | error fault =>
    refine before ("" :: commentLines field) ?_
    obtain ⟨_, _, problem⟩ := fault
    cases problem with
    | unsupportedType tag => exact .unsupported rfl .nil
    | danglingRelation => exact .failed nofun .nil
    | unwritableChoice => exact .failed nofun .nil

theorem blocks (config : Config) (collection : Collection) (resolved : List Resolved) :
    SameBut (resolved.filterMap (Resolved.failure? collection))
      (resolved.flatMap (Resolved.block config.strict))
      (resolved.flatMap (Resolved.block config.lenient)) := by
  induction resolved with
  | nil => exact .nil
  | cons r resolved ih =>
    rw [List.filterMap_cons, List.flatMap_cons, List.flatMap_cons]
    have first := block config collection r
    cases failure : r.failure? collection with
    | none =>
      rw [failure] at first
      exact first.append ih
    | some fault =>
      rw [failure] at first
      exact first.append ih

end SameBut

def interfaceLines (config : Config) (r : Rendered) : List String :=
  headerLine config r.collection :: r.fields.flatMap (Resolved.block config) ++ ["\x7d"]

def Rendered.failures (r : Rendered) : List FieldFault :=
  r.fields.filterMap (Resolved.failure? r.collection)

theorem SameBut.interfaceLines (config : Config) (r : Rendered) :
    SameBut r.failures (interfaceLines config.strict r) (interfaceLines config.lenient r) := by
  have lines := ((SameBut.blocks config r.collection r.fields).append
    (.refl ["\x7d"])).before [headerLine config r.collection]
  rwa [List.append_nil] at lines

theorem toList_source (config : Config) (r : Rendered) :
    (r.interface config).source.toList = unlines (interfaceLines config r) := by
  rw [Rendered.interface, source_interfaceOf, toList_linesText (by simp), interfaceLines]

/-- The lines of a file: those of its imports with an empty line behind them, and those behind it. -/
def fileLines (imports lines : List String) : List String :=
  if imports.isEmpty then lines else imports ++ "" :: lines

theorem toList_withImports_lines {source : String} {lines : List String} (imports : List String)
    (h : source.toList = unlines lines) :
    (withImports imports source).toList = unlines (fileLines imports lines) := by
  unfold withImports fileLines
  split
  · exact h
  · next given =>
    have last : String.intercalate "\n" imports ++ "\n\n" ++ source
        = linesText imports ++ ("\n" ++ source) := by
      simp only [linesText, String.append_assoc]
      rfl
    rw [last, String.toList_append, toList_linesText (by simpa using given), String.toList_append,
      h, unlines_append, unlines_cons]
    rfl

theorem SameBut.fileLines {faults : List FieldFault} {lines others : List String}
    (imports : List String) (h : SameBut faults lines others) :
    SameBut faults (fileLines imports lines) (fileLines imports others) := by
  unfold Declaration.fileLines
  split
  · exact h
  · exact (h.before [""]).before imports

/-- Lines as they stand in a text; they can differ in one word at their ends. -/
def SameLine (line other : List Char) : Prop :=
  line = other
    ∨ ∃ start, line = start ++ ": never;".toList ∧ other = start ++ ": unknown;".toList

theorem forall₂_sameLine_refl (lines : List (List Char)) : List.Forall₂ SameLine lines lines :=
  List.forall₂_same.mpr fun _ _ => .inl rfl

theorem forall₂_splitAt_failedLine (fault : FieldFault) :
    List.Forall₂ SameLine (Text.splitAt '\n' (failedLine fault "never").toList)
      (Text.splitAt '\n' (failedLine fault "unknown").toList) := by
  -- The key of a member can hold line breaks, so its line can be several ones in a text.
  have line (word : String) : (failedLine fault word).toList
      = ("  " ++ Naming.propertyKey fault.field).toList ++ (": " ++ word ++ ";").toList := by
    simp [failedLine]
  obtain ⟨parts, last, split⟩ :=
    Text.exists_splitAt_append '\n' ("  " ++ Naming.propertyKey fault.field).toList
  rw [line, line, split _ (by decide), split _ (by decide)]
  exact List.rel_append (forall₂_sameLine_refl parts) (.cons (.inr ⟨last, rfl, rfl⟩) .nil)

theorem splitAt_unlines_cons (line : String) (lines : List String) :
    Text.splitAt '\n' (unlines (line :: lines))
      = Text.splitAt '\n' line.toList ++ Text.splitAt '\n' (unlines lines) := by
  rw [unlines_cons, Text.splitAt_append_separator]

theorem SameBut.forall₂_splitAt {faults : List FieldFault} {lines others : List String}
    (h : SameBut faults lines others) :
    List.Forall₂ SameLine (Text.splitAt '\n' (unlines lines))
      (Text.splitAt '\n' (unlines others)) := by
  induction h with
  | nil => exact forall₂_sameLine_refl _
  | same line _ ih =>
    rw [splitAt_unlines_cons, splitAt_unlines_cons]
    exact List.rel_append (forall₂_sameLine_refl _) ih
  | unsupported _ _ ih =>
    rw [splitAt_unlines_cons, splitAt_unlines_cons]
    exact List.rel_append (forall₂_splitAt_failedLine _) ih
  | failed _ _ ih =>
    rw [splitAt_unlines_cons, splitAt_unlines_cons]
    exact List.rel_append (forall₂_sameLine_refl _) ih

/-! ### The files -/

/-- Files that are the same but for the lines of fields without a type, which are given in order. -/
structure SameFile (faults : List FieldFault) (file other : GeneratedFile) : Prop where
  path : file.path = other.path
  imports : importsOf file.content = importsOf other.content
  text : ∃ lines others, file.content.toList = unlines lines
    ∧ other.content.toList = unlines others ∧ SameBut faults lines others
  lines : List.Forall₂ SameLine (Text.splitAt '\n' file.content.toList)
    (Text.splitAt '\n' other.content.toList)

theorem SameFile.of_lines {faults : List FieldFault} {file other : GeneratedFile}
    {lines others : List String} (path : file.path = other.path)
    (imports : importsOf file.content = importsOf other.content)
    (text : file.content.toList = unlines lines) (text' : other.content.toList = unlines others)
    (same : SameBut faults lines others) : SameFile faults file other where
  path := path
  imports := imports
  text := ⟨lines, others, text, text', same⟩
  lines := by
    rw [text, text']
    exact same.forall₂_splitAt

/-- Lists of files that are the same in pairs; the fields without a type are those of all files. -/
inductive SameFiles : List FieldFault → List GeneratedFile → List GeneratedFile → Prop where
  | nil : SameFiles [] [] []
  | cons {faults more : List FieldFault} {file other : GeneratedFile}
    {files others : List GeneratedFile} (first : SameFile faults file other)
    (rest : SameFiles more files others) :
    SameFiles (faults ++ more) (file :: files) (other :: others)

theorem references_interface (config : Config) (r : Rendered) :
    (r.interface config.lenient).references = (r.interface config.strict).references := by
  simp only [Rendered.interface, interfaceOf, Interface.ofMembers, membersOf, List.flatMap_map]
  rfl

theorem sameFile_interfaceFile {collection : Collection} {fields : List Resolved}
    (first : ResolvedInTurn config.strict schema choices collection s fields t)
    (second : ResolvedInTurn config.lenient schema choices collection u fields v) :
    let r : Rendered := ⟨collection, fields⟩
    SameFile r.failures (interfaceFile config.strict (r.interface config.strict))
      (interfaceFile config.lenient (r.interface config.lenient)) := by
  intro r
  let imports := importLines config.strict (r.interface config.strict).references
  have text := toList_withImports_lines imports (toList_source config.strict r)
  have text' : (interfaceFile config.lenient (r.interface config.lenient)).content.toList
      = unlines (fileLines imports (interfaceLines config.lenient r)) := by
    rw [interfaceFile, references_interface]
    exact toList_withImports_lines imports (toList_source config.lenient r)
  have read := (importsOf_interfaceFile first).1
  have read' : importsOf (interfaceFile config.lenient (r.interface config.lenient)).content
      = imported config.strict (r.interface config.lenient).references :=
    (importsOf_interfaceFile second).1
  rw [references_interface] at read'
  exact .of_lines rfl (read.trans read'.symm) text text'
    ((SameBut.interfaceLines config r).fileLines imports)

theorem toList_indexSource (config : Config) (collections : List Collection) :
    ∃ lines, (indexSource config collections).toList = unlines lines :=
  ⟨_, toList_linesText (by simp)⟩

theorem sameFile_indexFile (config : Config) (schema : Schema) (rendered : List Rendered) :
    SameFile [] (indexFile config.strict schema (rendered.map (·.interface config.strict)))
      (indexFile config.lenient schema (rendered.map (·.interface config.lenient))) := by
  have same : indexFile config.lenient schema (rendered.map (·.interface config.lenient))
      = indexFile config.strict schema (rendered.map (·.interface config.strict)) := by
    unfold indexFile
    rw [List.map_map, List.map_map]
    rfl
  obtain ⟨lines, source⟩ := toList_indexSource config.strict (collectionsOf schema)
  have text := toList_withImports_lines (importLines config.strict
    ((rendered.map (·.interface config.strict)).map (·.name))) source
  rw [same]
  exact .of_lines rfl rfl text text (.refl _)

theorem exists_lines_intercalate (config : Config) (rendered : List Rendered) :
    ∃ lines others,
      (String.intercalate "\n" (rendered.map fun r => (r.interface config.strict).source)).toList
          = unlines lines
        ∧ (String.intercalate "\n" (rendered.map fun r =>
            (r.interface config.lenient).source)).toList = unlines others
        ∧ SameBut (rendered.flatMap Rendered.failures) lines others := by
  induction rendered with
  | nil => exact ⟨[], [], rfl, rfl, .nil⟩
  | cons r rendered ih =>
    obtain ⟨lines, others, text, text', same⟩ := ih
    have first := SameBut.interfaceLines config r
    by_cases last : rendered = []
    · subst last
      rw [List.map_singleton, List.map_singleton, String.intercalate_singleton,
        String.intercalate_singleton, List.flatMap_singleton]
      exact ⟨_, _, toList_source config.strict r, toList_source config.lenient r, first⟩
    · refine ⟨_, _, ?_, ?_, first.append (same.before [""])⟩
      all_goals
        rw [List.map_cons, String.intercalate_cons_of_ne_nil (by simpa using last),
          String.toList_append, String.toList_append, toList_source, unlines_append,
          List.append_assoc]
      · rw [text]
        rfl
      · rw [text']
        rfl

theorem exists_lines_tail (config : Config) (collections : List Collection) :
    ∃ lines, ("\n" ++ (indexSource config collections ++ ("\n" ++ helperSource config))).toList
      = unlines lines := by
  obtain ⟨lines, index⟩ := toList_indexSource config collections
  obtain ⟨more, helpers⟩ : ∃ lines, (helperSource config).toList = unlines lines :=
    ⟨_, toList_linesText (by simp)⟩
  refine ⟨"" :: (lines ++ "" :: more), ?_⟩
  rw [String.toList_append, String.toList_append, String.toList_append, index, helpers,
    unlines_cons, unlines_append, unlines_cons]
  rfl

theorem sameFiles_combinedFiles (config : Config) (schema : Schema) (rendered : List Rendered) :
    SameFiles (rendered.flatMap Rendered.failures)
      (combinedFiles config.strict schema (rendered.map (·.interface config.strict)))
      (combinedFiles config.lenient schema (rendered.map (·.interface config.lenient))) := by
  obtain ⟨lines, others, text, text', same⟩ := exists_lines_intercalate config rendered
  obtain ⟨tail, behind⟩ := exists_lines_tail config.strict (collectionsOf schema)
  have file := importsOf_combinedFiles config.strict schema rendered _ (List.mem_singleton.mpr rfl)
  have other := importsOf_combinedFiles config.lenient schema rendered _
    (List.mem_singleton.mpr rfl)
  rw [← List.append_nil (rendered.flatMap Rendered.failures)]
  have all := same.append (.refl tail)
  rw [List.append_nil] at all
  refine .cons (.of_lines rfl (file.trans other.symm) ?_ ?_ all) .nil
  · simp only [String.append_assoc]
    rw [String.toList_append, List.map_map, unlines_append, ← text, ← behind]
    rfl
  · simp only [String.append_assoc]
    rw [String.toList_append, List.map_map, unlines_append, ← text', ← behind]
    rfl

theorem sameFiles_splitFiles {rendered : List Rendered}
    (first : RenderedInTurn config.strict schema choices s rendered t)
    (second : RenderedInTurn config.lenient schema choices u rendered v) :
    SameFiles (rendered.flatMap Rendered.failures)
      (splitFiles config.strict schema (rendered.map (·.interface config.strict)))
      (splitFiles config.lenient schema (rendered.map (·.interface config.lenient))) := by
  have index := sameFile_indexFile config schema rendered
  unfold splitFiles
  -- The induction is on the runs, so the index must not be that of the collections rendered in them.
  generalize indexFile config.strict schema (rendered.map (·.interface config.strict)) = file
    at index ⊢
  generalize indexFile config.lenient schema (rendered.map (·.interface config.lenient)) = other
    at index ⊢
  induction first generalizing u with
  | nil => exact .cons index .nil
  | cons kept head whole tail ih =>
    cases second with
    | cons kept' head' whole' tail' => exact .cons (sameFile_interfaceFile head head') (ih tail')

theorem sameFiles_outputFiles {rendered : List Rendered}
    (first : RenderedInTurn config.strict schema choices s rendered t)
    (second : RenderedInTurn config.lenient schema choices u rendered v) :
    SameFiles (rendered.flatMap Rendered.failures)
      (outputFiles config.strict schema (rendered.map (·.interface config.strict)))
      (outputFiles config.lenient schema (rendered.map (·.interface config.lenient))) := by
  have strict : config.strict.layout = config.layout := rfl
  have lenient : config.lenient.layout = config.layout := rfl
  rw [outputFiles, outputFiles, strict, lenient]
  cases config.layout with
  | combined => exact sameFiles_combinedFiles config schema rendered
  | split => exact sameFiles_splitFiles first second

/-! ### Generation -/

/--
Lenient types change nothing but one word in the lines of fields whose type is not supported: the
files are the same otherwise, with the same imports, and the same fields are reported. Both runs start
from one state of the source, which must not look at the log, as the runs write different words there.
-/
theorem generate_lenient (config : Config) (schema : Schema) (blind : choices.IsBlind)
    (same : s.state = u.state) :
    (∃ found, (generate config.strict schema choices).run.run s = (.error (.collision found), s)
        ∧ (generate config.lenient schema choices).run.run u = (.error (.collision found), u))
      ∨ ∃ result t result' v, Step.Yields (generate config.strict schema choices) s result t
          ∧ Step.Yields (generate config.lenient schema choices) u result' v
          ∧ result'.failures = result.failures ∧ v.state = t.state
          ∧ SameFiles result.failures result.files result'.files := by
  cases check : checkCollisions config.layout schema with
  | error fault =>
    obtain ⟨found, rfl⟩ := exists_of_checkCollisions_eq_error check
    exact .inl ⟨found, run_generate_of_collision check, run_generate_of_collision check⟩
  | ok =>
    obtain ⟨result, t, run⟩ := exists_yields_generate config.strict schema choices s check
    obtain ⟨result', v, run'⟩ := exists_yields_generate config.lenient schema choices u check
    obtain ⟨-, rendered, w, turns, last, whole, made⟩ := generationOf_of_generate run
    obtain ⟨-, others, w', turns', last', whole', made'⟩ := generationOf_of_generate run'
    have types : config.lenient.jsonType = config.strict.jsonType := rfl
    obtain ⟨rfl, left⟩ :=
      eq_of_renderedInTurn blind types same (whole.trans whole'.symm) turns turns'
    have failures : result.failures = rendered.flatMap Rendered.failures :=
      (congrArg _ made).trans (failures_generationOf config.strict schema rendered)
    have failures' : result'.failures = rendered.flatMap Rendered.failures :=
      (congrArg _ made').trans (failures_generationOf config.lenient schema rendered)
    refine .inr ⟨result, t, result', v, run, run', failures'.trans failures.symm, ?_, ?_⟩
    · rw [last', last, left]
    · rw [failures, made, made']
      exact sameFiles_outputFiles turns turns'

/-- A type that is not supported, and a relation that points at nothing. -/
def failingSchema : Schema where
  collections := [
    ("posts", ⟨"posts", false, [
      ("shape", { collection := "posts", field := "shape", typeTag := "geometry" }),
      ("author", { collection := "posts", field := "author", typeTag := "uuid" })]⟩)]
  relations := [{ collection := "posts", field := "author", relatedCollection := some "users" }]

theorem generate_lenient_failingSchema :
    let config : Config := {}
    let faults : List FieldFault := [
      ⟨"posts", "shape", .unsupportedType "geometry"⟩,
      ⟨"posts", "author", .danglingRelation (some "users")⟩]
    ∃ result t result' v,
      Step.Yields (generate config.strict failingSchema .unimplemented)
          (⟨(), []⟩ : Session Unit) result t
        ∧ Step.Yields (generate config.lenient failingSchema .unimplemented)
          (⟨(), []⟩ : Session Unit) result' v
        ∧ result.failures = faults ∧ result'.failures = faults
        ∧ SameFiles faults result.files result'.files := by
  intro config faults
  have passed : checkCollisions config.strict.layout failingSchema = .ok () :=
    checkCollisions_eq_ok.mpr (collisions_eq_nil_iff.mpr (by decide))
  obtain ⟨w, known⟩ := exists_yields_generationOf (s := (⟨(), []⟩ : Session Unit))
    ChoiceSource.answersFrom_unimplemented trivial passed
  rcases generate_lenient config failingSchema ChoiceSource.isBlind_unimplemented
    (s := (⟨(), []⟩ : Session Unit)) (u := ⟨(), []⟩) rfl with
    ⟨found, collided, -⟩ | ⟨result, t, result', v, run, run', failures, -, files⟩
  · cases collided.symm.trans known
  · cases run.symm.trans known
    exact ⟨_, _, result', v, run, run', rfl, failures, files⟩

end Typescribe.Declaration
