import Typescribe.Proofs.Declaration.Collision
import Typescribe.Proofs.Declaration.ImportLines
import Typescribe.Proofs.Declaration.Reference

/-!
This module contains the runs that generate all declarations, and the imports of a split output: each
of them leads to a file of the same output that declares what is imported. A text that stands in a
file as it is can add lines that look like imports.
-/

namespace Typescribe.Declaration

variable {σ : Type} {config : Config} {schema : Schema} {choices : ChoiceSource σ}
  {collection : Collection} {s t : Session σ}

structure Rendered where
  collection : Collection
  fields : List Resolved

def Rendered.interface (config : Config) (r : Rendered) : Interface :=
  interfaceOf config r.collection r.fields

/--
Collections that are rendered one after the other. Each one starts from the state that the one before
it leaves; between them only the log can grow.
-/
inductive RenderedInTurn (config : Config) (schema : Schema) (choices : ChoiceSource σ) :
    Session σ → List Rendered → Session σ → Prop where
  | nil {s : Session σ} : RenderedInTurn config schema choices s [] s
  | cons {s t u v : Session σ} {collection : Collection} {fields : List Resolved}
    {rendered : List Rendered} (kept : t.state = s.state)
    (head : ResolvedInTurn config schema choices collection t fields u)
    (whole : fields.map (·.field) = collection.fields.map (·.2))
    (tail : RenderedInTurn config schema choices u rendered v) :
    RenderedInTurn config schema choices s (⟨collection, fields⟩ :: rendered) v

theorem renderedInTurn_of_renderInterfaces {interfaces : List Interface}
    (h : Step.Yields (renderInterfaces config schema choices) s interfaces t) :
    ∃ rendered, RenderedInTurn config schema choices s rendered t
      ∧ rendered.map (·.collection) = collectionsOf schema
      ∧ interfaces = rendered.map (·.interface config) := by
  have chain := Step.yields_mapM.mp h
  -- The induction is on the run, so the collections must not be those of the data model.
  generalize collectionsOf schema = collections at chain
  clear h
  induction chain with
  | nil => exact ⟨[], .nil, rfl, rfl⟩
  | @cons _ _ _ collection _ _ _ head tail ih =>
    obtain ⟨_, u, logged, rendering⟩ := Step.yields_bind.mp head
    obtain ⟨fields, turns, whole, rfl⟩ := resolvedInTurn_of_renderInterface rendering
    obtain ⟨rendered, others, same, rfl⟩ := ih
    have kept := congrArg Session.state (Step.yields_write.mp logged)
    refine ⟨⟨collection, fields⟩ :: rendered, .cons kept turns whole others, ?_, rfl⟩
    rw [List.map_cons, same]

/-- What is generated from rendered collections. -/
def generationOf (config : Config) (schema : Schema) (rendered : List Rendered) : Generation :=
  let interfaces := rendered.map (·.interface config)
  ⟨outputFiles config schema interfaces, interfaces.flatMap (·.failures)⟩

theorem generationOf_of_generate {result : Generation}
    (h : Step.Yields (generate config schema choices) s result t) :
    checkCollisions config.layout schema = .ok ()
      ∧ ∃ rendered u, RenderedInTurn config schema choices s rendered u ∧ t.state = u.state
          ∧ rendered.map (·.collection) = collectionsOf schema
          ∧ result = generationOf config schema rendered := by
  unfold generate at h
  obtain ⟨_, u, checked, h⟩ := Step.yields_bind.mp h
  obtain ⟨passed, rfl⟩ := Step.yields_ofExcept.mp checked
  obtain ⟨interfaces, v, rendering, h⟩ := Step.yields_bind.mp h
  obtain ⟨_, w, logged, h⟩ := Step.yields_bind.mp h
  obtain ⟨rfl, rfl⟩ := Step.yields_pure.mp h
  obtain ⟨rendered, turns, same, rfl⟩ := renderedInTurn_of_renderInterfaces rendering
  exact ⟨passed, rendered, v, turns, by rw [Step.yields_write.mp logged], same, rfl⟩

theorem renderedInTurn_of_generate {result : Generation}
    (h : Step.Yields (generate config schema choices) s result t) :
    checkCollisions config.layout schema = .ok ()
      ∧ ∃ rendered u, RenderedInTurn config schema choices s rendered u ∧ t.state = u.state
          ∧ rendered.map (·.collection) = collectionsOf schema
          ∧ result.files = outputFiles config schema (rendered.map (·.interface config)) := by
  obtain ⟨passed, rendered, u, turns, kept, same, rfl⟩ := generationOf_of_generate h
  exact ⟨passed, rendered, u, turns, kept, same, rfl⟩

theorem run_generate_of_collision {fault : Fault}
    (collided : checkCollisions config.layout schema = .error fault) :
    (generate config schema choices).run.run s = (.error fault, s) := by
  unfold generate
  rw [collided]
  exact Step.run_bind_of_error (Step.run_ofExcept _)

theorem exists_yields_generate (config : Config) (schema : Schema) (choices : ChoiceSource σ)
    (s : Session σ) (passed : checkCollisions config.layout schema = .ok ()) :
    ∃ result t, Step.Yields (generate config schema choices) s result t := by
  unfold generate
  apply Step.exists_yields_bind ⟨(), s, Step.yields_ofExcept.mpr ⟨passed, rfl⟩⟩
  intro _ u
  apply Step.exists_yields_bind
  · have total : ∀ collection u, ∃ interface v,
        Step.Yields (do
          Step.write ⟨.debug, .generation, "Rendering interface", collection.collection, "-"⟩
          renderInterface config schema choices collection) u interface v := by
      intro collection u
      apply Step.exists_yields_bind ⟨(), _, Step.yields_write.mpr rfl⟩
      intro _ v
      exact exists_yields_renderInterface config schema choices collection v
    obtain ⟨interfaces, v, chain⟩ := Step.Chain.exists_of_total total (collectionsOf schema) u
    exact ⟨interfaces, v, Step.yields_mapM.mpr chain⟩
  · intro interfaces v
    apply Step.exists_yields_bind ⟨(), _, Step.yields_write.mpr rfl⟩
    intro _ w
    exact ⟨_, w, Step.yields_pure.mpr ⟨rfl, rfl⟩⟩

theorem isPlainName_of_mem_references {fields : List Resolved}
    (h : ResolvedInTurn config schema choices collection s fields t) :
    ∀ name ∈ (interfaceOf config collection fields).references, IsPlainName name := by
  intro name hn
  obtain ⟨-, r, -, -, refers⟩ := (mem_references_interfaceOf h).mp hn
  obtain ⟨target, -, rfl⟩ := exists_mem_collectionsOf_of_refersTo refers
  exact isPlainName_className target.collection

theorem importsOf_interfaceFile {fields : List Resolved}
    (h : ResolvedInTurn config schema choices collection s fields t) :
    let file := interfaceFile config (interfaceOf config collection fields)
    importsOf file.content = imported config (interfaceOf config collection fields).references
      ∧ declaredIn? file.content = some (Naming.className collection.collection) := by
  obtain ⟨imports, body⟩ := importsOf_importLines config (isPlainName_of_mem_references h)
    (startsPlainly_source config collection (membersOf config fields))
  refine ⟨imports, ?_⟩
  unfold declaredIn?
  rw [interfaceFile, interfaceOf] at *
  rw [body, readHeader?_source]
  rfl

theorem importsOf_indexFile (config : Config) (schema : Schema) (rendered : List Rendered)
    (same : rendered.map (·.collection) = collectionsOf schema) :
    let file := indexFile config schema (rendered.map (·.interface config))
    let names := (collectionsOf schema).map fun c => Naming.className c.collection
    importsOf file.content = imported config names
      ∧ readIndex? (bodyOf file.content) = some names := by
  have names : (rendered.map (·.interface config)).map (·.name)
      = (collectionsOf schema).map fun c => Naming.className c.collection := by
    rw [← same, List.map_map, List.map_map]
    rfl
  have plain : ∀ name ∈ (collectionsOf schema).map (fun c => Naming.className c.collection),
      IsPlainName name := by
    intro name hn
    obtain ⟨c, -, rfl⟩ := List.mem_map.mp hn
    exact isPlainName_className c.collection
  obtain ⟨imports, body⟩ := importsOf_importLines config plain
    (startsPlainly_indexSource config (collectionsOf schema))
  simp only [indexFile]
  rw [names, imports, body]
  exact ⟨rfl, readIndex?_indexSource config (collectionsOf schema)⟩

/-- What the texts in the members of a collection import besides what its fields refer to. -/
def Rendered.strays (config : Config) (r : Rendered) : List String :=
  (membersOf config r.fields).flatMap fun member => (carriedTexts member).flatMap strayImports

/--
What the file of a collection imports: in order, the interfaces that the fields with a type refer to,
but for the one that it declares. Stray lines follow.
-/
structure ImportsReferences (config : Config) (schema : Schema) (r : Rendered)
    (file : GeneratedFile) : Prop where
  path : file.path = Naming.className r.collection.collection ++ ".d.ts"
  declared : declaredIn? file.content = some (Naming.className r.collection.collection)
  lines : importsIn file.content.toList
    = (r.interface config).references.map importLine ++ r.strays config
  ordered : (r.interface config).references.Pairwise (· < ·)
  references : ∀ name, name ∈ (r.interface config).references
    ↔ name ≠ Naming.className r.collection.collection
        ∧ ∃ field ∈ r.fields, (∃ type, field.resolution = .ok type)
            ∧ RefersTo schema r.collection field.field name

theorem mem_strays {r : Rendered} {resolved : Resolved} {text name : String}
    (member : resolved ∈ r.fields) (raw : text ∈ rawTexts resolved.field)
    (stray : name ∈ strayImports text) : name ∈ r.strays config :=
  List.mem_flatMap.mpr ⟨_, List.mem_map_of_mem member,
    List.mem_flatMap.mpr ⟨text, List.mem_append_left _ raw, stray⟩⟩

theorem importsIn_interfaceFile {fields : List Resolved}
    (h : ResolvedInTurn config schema choices collection s fields t) :
    let r : Rendered := ⟨collection, fields⟩
    importsIn (interfaceFile config (r.interface config)).content.toList
      = importLines config (r.interface config).references ++ r.strays config := by
  intro r
  have file := importsIn_withImports config (isPlainName_of_mem_references h)
    (interfaceOf config collection fields).source
  have source := importsIn_source config collection (membersOf config fields)
  exact file.trans (congrArg _ source)

theorem importsReferences_of_resolvedInTurn {fields : List Resolved}
    (exported : config.mode = .exported)
    (h : ResolvedInTurn config schema choices collection s fields t) :
    ImportsReferences config schema ⟨collection, fields⟩
      (interfaceFile config (interfaceOf config collection fields)) where
  path := rfl
  declared := (importsOf_interfaceFile h).2
  lines := (importsIn_interfaceFile h).trans (by rw [importLines, exported])
  ordered := pairwise_references_interfaceOf fields
  references _ := mem_references_interfaceOf h

theorem forall_rendered {rendered : List Rendered} {P : Rendered → Prop}
    (h : RenderedInTurn config schema choices s rendered t)
    (each : ∀ collection fields u v,
      ResolvedInTurn config schema choices collection u fields v → P ⟨collection, fields⟩) :
    ∀ r ∈ rendered, P r := by
  induction h with
  | nil => simp
  | cons kept head whole tail ih =>
    intro r hr
    cases List.mem_cons.mp hr with
    | inl hr => exact hr ▸ each _ _ _ _ head
    | inr hr => exact ih r hr

def IsKeyed (schema : Schema) : Prop :=
  ∀ entry ∈ schema.collections, entry.2.collection = entry.1

theorem map_className_of_isKeyed (keyed : IsKeyed schema) :
    schema.collections.map (fun entry => Naming.className entry.1)
      = (collectionsOf schema).map fun c => Naming.className c.collection := by
  rw [collectionsOf, List.map_map]
  apply List.map_congr_left
  intro entry he
  rw [Function.comp, keyed entry he]

theorem nodup_declared {layout : Layout} (keyed : IsKeyed schema)
    (h : checkCollisions layout schema = .ok ()) :
    ((reservedNames layout ++ (collectionsOf schema).map fun c =>
      Naming.className c.collection).map foldCase).Nodup := by
  rw [← map_className_of_isKeyed keyed]
  exact nodup_of_checkCollisions h

theorem exists_toList_intercalate_source (config : Config) (r : Rendered) (rest : List Rendered) :
    ∃ tail, (String.intercalate "\n" (((r :: rest).map (·.interface config)).map
      (·.source))).toList = config.keyword.toList ++ tail := by
  obtain ⟨behind, source⟩ := exists_toList_source config r.collection (membersOf config r.fields)
  rw [List.map_cons, List.map_cons, Rendered.interface, interfaceOf]
  by_cases last : (rest.map (·.interface config)).map (·.source) = []
  · rw [last, String.intercalate_singleton, source]
    exact ⟨_, rfl⟩
  · rw [String.intercalate_cons_of_ne_nil last, String.toList_append, String.toList_append,
      source, List.append_assoc, List.append_assoc]
    exact ⟨_, rfl⟩

theorem importsOf_combinedFiles (config : Config) (schema : Schema) (rendered : List Rendered) :
    ∀ file ∈ combinedFiles config schema (rendered.map (·.interface config)),
      importsOf file.content = [] := by
  intro file hf
  rw [combinedFiles, List.mem_singleton] at hf
  subst hf
  have head (source : String) (h : source.toList.head? ≠ some 'i') : importsOf source = [] := by
    rw [importsOf, readImports_of_head h]
  apply head
  cases rendered with
  | nil => simp
  | cons r rest =>
    obtain ⟨tail, start⟩ := exists_toList_intercalate_source config r rest
    simp only [String.toList_append, start, List.append_assoc]
    unfold Config.keyword
    cases config.mode <;> simp [Mode.keyword]

theorem importsIn_indexFile (config : Config) (schema : Schema) (rendered : List Rendered)
    (same : rendered.map (·.collection) = collectionsOf schema) :
    importsIn (indexFile config schema (rendered.map (·.interface config))).content.toList
      = importLines config ((collectionsOf schema).map fun c => Naming.className c.collection) := by
  have names : (rendered.map (·.interface config)).map (·.name)
      = (collectionsOf schema).map fun c => Naming.className c.collection := by
    rw [← same, List.map_map, List.map_map]
    rfl
  have plain : ∀ name ∈ (collectionsOf schema).map (fun c => Naming.className c.collection),
      IsPlainName name := by
    intro name hn
    obtain ⟨c, -, rfl⟩ := List.mem_map.mp hn
    exact isPlainName_className c.collection
  simp only [indexFile]
  rw [names, importsIn_withImports config plain, importsIn_indexSource, List.append_nil]

/-- The imports of all files of an output, file by file. -/
def allImports (files : List GeneratedFile) : List String :=
  files.flatMap fun file => importsIn file.content.toList

theorem allImports_combinedFiles (config : Config) (schema : Schema) (rendered : List Rendered) :
    allImports (combinedFiles config schema (rendered.map (·.interface config)))
      = rendered.flatMap (·.strays config) := by
  have sources : ((rendered.map (·.interface config)).map (·.source)).flatMap
      (fun source => importsIn source.toList) = rendered.flatMap (·.strays config) := by
    rw [List.map_map, List.flatMap_map]
    exact List.flatMap_congr fun r _ => importsIn_source config r.collection _
  have newline : "\n".toList = ['\n'] := rfl
  rw [allImports, combinedFiles, List.flatMap_singleton]
  simp only [String.toList_append, newline, List.append_assoc, List.cons_append, List.nil_append]
  rw [importsIn_append_newline, importsIn_append_newline, importsIn_intercalate, sources,
    importsIn_indexSource, importsIn_helperSource, List.append_nil, List.append_nil]

theorem allImports_splitFiles {rendered : List Rendered}
    (turns : RenderedInTurn config schema choices s rendered t)
    (same : rendered.map (·.collection) = collectionsOf schema) (ambient : config.mode = .ambient) :
    allImports (splitFiles config schema (rendered.map (·.interface config)))
      = rendered.flatMap (·.strays config) := by
  have each : ∀ r ∈ rendered,
      importsIn (interfaceFile config (r.interface config)).content.toList = r.strays config :=
    forall_rendered turns fun collection fields u v resolved => by
      rw [importsIn_interfaceFile resolved, importLines, ambient]
      rfl
  have index := importsIn_indexFile config schema rendered same
  rw [importLines, ambient] at index
  rw [allImports, splitFiles, List.flatMap_append, List.flatMap_singleton, index, List.append_nil,
    List.map_map, List.flatMap_map]
  exact List.flatMap_congr each

/-- A field whose comment has its texts on one line each. -/
def HasLineTexts (field : Field) : Prop :=
  ∀ text ∈ rawTexts field, '\n' ∉ text.toList

theorem strays_eq_nil {rendered : List Rendered} (json : '\n' ∉ config.jsonType.toList)
    (plain : ∀ c ∈ rendered.map (·.collection), ∀ entry ∈ c.fields, HasLineTexts entry.2)
    (h : RenderedInTurn config schema choices s rendered t) :
    ∀ r ∈ rendered, r.strays config = [] := by
  induction h with
  | nil => simp
  | @cons _ _ _ _ collection fields rendered kept head whole tail ih =>
    rw [List.map_cons, List.forall_mem_cons] at plain
    have raw : ∀ r ∈ fields, HasLineTexts r.field := by
      intro r hr
      obtain ⟨entry, he, field⟩ := List.mem_map.mp (whole ▸ List.mem_map_of_mem hr)
      exact field ▸ plain.1 entry he
    intro r hr
    cases List.mem_cons.mp hr with
    | inl hr =>
      rw [hr, Rendered.strays, List.flatMap_eq_nil_iff]
      intro member hm
      rw [List.flatMap_eq_nil_iff]
      exact strayImports_eq_nil_of_resolvedInTurn json raw head member hm
    | inr hr => exact ih plain.2 r hr

/--
The imports of an output, read from all lines of its files. Stray lines come from the texts of fields
and of JSON data only if these go over several lines.
-/
theorem importsIn_generate {result : Generation}
    (h : Step.Yields (generate config schema choices) s result t) :
    ∃ rendered u, RenderedInTurn config schema choices s rendered u ∧ t.state = u.state
      ∧ rendered.map (·.collection) = collectionsOf schema
      ∧ (config.mode = .ambient →
          allImports result.files = rendered.flatMap (·.strays config))
      ∧ (config.mode = .exported → config.layout = .split →
          ∃ files index names, result.files = files ++ [index] ∧ index.path = "index.d.ts"
            ∧ List.Forall₂ (ImportsReferences config schema) rendered files
            ∧ (∀ r ∈ rendered, ∀ name ∈ (r.interface config).references, ∃ other ∈ files,
                other.path = name ++ ".d.ts" ∧ declaredIn? other.content = some name)
            ∧ names = (collectionsOf schema).map (fun c => Naming.className c.collection)
            ∧ importsIn index.content.toList = names.map importLine
            ∧ readIndex? (bodyOf index.content) = some names
            ∧ (IsKeyed schema → names.Nodup))
      ∧ ('\n' ∉ config.jsonType.toList →
          (∀ c ∈ collectionsOf schema, ∀ entry ∈ c.fields, HasLineTexts entry.2) →
          ∀ r ∈ rendered, r.strays config = []) := by
  obtain ⟨passed, rendered, u, turns, kept, same, files⟩ := renderedInTurn_of_generate h
  refine ⟨rendered, u, turns, kept, same, ?_, ?_, ?_⟩
  · intro ambient
    rw [files, outputFiles]
    cases config.layout with
    | combined => exact allImports_combinedFiles config schema rendered
    | split => exact allImports_splitFiles turns same ambient
  · intro exported split
    let fileOf (r : Rendered) : GeneratedFile := interfaceFile config (r.interface config)
    let index := indexFile config schema (rendered.map (·.interface config))
    have indexImports := importsIn_indexFile config schema rendered same
    have entries := (importsOf_indexFile config schema rendered same).2
    rw [importLines, exported] at indexImports
    have each : ∀ r ∈ rendered, ImportsReferences config schema r (fileOf r) :=
      forall_rendered turns fun _ _ _ _ => importsReferences_of_resolvedInTurn exported
    refine ⟨rendered.map fileOf, index, _, ?_, rfl, ?_, ?_, rfl, indexImports, entries, ?_⟩
    · rw [files, outputFiles, split]
      simp only [splitFiles, List.map_map]
      rfl
    · rw [List.forall₂_map_right_iff, List.forall₂_same]
      exact each
    · intro r hr name hn
      -- The name was found by a lookup in the data model, so its collection has a file as well.
      obtain ⟨-, field, -, -, refers⟩ := ((each r hr).references name).mp hn
      obtain ⟨target, ht, rfl⟩ := exists_mem_collectionsOf_of_refersTo refers
      obtain ⟨other, ho, rfl⟩ := List.mem_map.mp (same ▸ ht)
      exact ⟨_, List.mem_map_of_mem ho, (each other ho).path, (each other ho).declared⟩
    · intro keyed
      -- The check for collisions has even found them different when letter case is ignored.
      apply List.Nodup.of_map foldCase
      have names := nodup_declared keyed passed
      rw [List.map_append] at names
      exact names.of_append_right
  · intro json plain
    exact strays_eq_nil json (same ▸ plain) turns

/-- A relation with both of its sides shown. -/
def linkedCollections : Schema where
  collections := [
    ("posts", ⟨"posts", false, [
      ("author", { collection := "posts", field := "author", typeTag := "uuid" })]⟩),
    ("users", ⟨"users", false, [
      ("posts", { collection := "users", field := "posts", isAlias := true })]⟩)]
  relations := [{
    collection := "posts", field := "author", relatedCollection := some "users"
    sides := some {
      manyCollection := some "posts", manyField := some "author"
      oneCollection := some "users", oneField := some "posts" } }]

theorem importsIn_index_linkedCollections :
    ∃ result t index,
      Step.Yields (generate { layout := .split } linkedCollections .unimplemented)
        (⟨(), []⟩ : Session Unit) result t
      ∧ index ∈ result.files ∧ importsIn index.content.toList = ["Post", "User"].map importLine
      ∧ readIndex? (bodyOf index.content) = some ["Post", "User"]
      ∧ ["Post", "User"].Nodup := by
  have passed : checkCollisions .split linkedCollections = .ok () :=
    checkCollisions_eq_ok.mpr (collisions_eq_nil_iff.mpr (by decide))
  obtain ⟨result, t, run⟩ := exists_yields_generate { layout := .split } linkedCollections
    .unimplemented (⟨(), []⟩ : Session Unit) passed
  obtain ⟨rendered, u, -, -, -, -, closed, -⟩ := importsIn_generate run
  obtain ⟨files, index, names, all, -, -, -, rfl, imports, entries, once⟩ := closed rfl rfl
  refine ⟨result, t, index, run, by simp [all], imports, entries, ?_⟩
  exact once (by unfold IsKeyed; decide)

/-- One identifier under two keys. -/
def sharedIdentifier : Schema where
  collections := [("a", ⟨"x", false, []⟩), ("b", ⟨"x", false, []⟩)]

theorem importsIn_index_sharedIdentifier :
    ∃ result t, ∃ index ∈ result.files,
      Step.Yields (generate { layout := .split } sharedIdentifier .unimplemented)
        (⟨(), []⟩ : Session Unit) result t
      ∧ index.path = "index.d.ts"
      ∧ importsIn index.content.toList = ["X", "X"].map importLine := by
  have passed : checkCollisions .split sharedIdentifier = .ok () :=
    checkCollisions_eq_ok.mpr (collisions_eq_nil_iff.mpr (by decide))
  obtain ⟨result, t, run⟩ := exists_yields_generate { layout := .split } sharedIdentifier
    .unimplemented (⟨(), []⟩ : Session Unit) passed
  obtain ⟨-, rendered, u, -, -, same, files⟩ := renderedInTurn_of_generate run
  refine ⟨result, t, indexFile { layout := .split } sharedIdentifier _, ?_, run, rfl,
    importsIn_indexFile { layout := .split } sharedIdentifier rendered same⟩
  rw [files]
  exact List.mem_append_right _ (List.mem_singleton.mpr rfl)

/-- A type tag that ends its comment and goes on with a line of its own. -/
def importingTag : Schema where
  collections := [("posts", ⟨"posts", false, [
    ("status", {
      collection := "posts", field := "status"
      typeTag := "*/\n" ++ importLine "X" ++ "\n/*" })]⟩)]

/-- Ambient declarations can have an import line, of an interface that is declared nowhere. -/
theorem importLine_mem_importingTag :
    ∃ result t, ∃ file ∈ result.files,
      Step.Yields (generate { mode := .ambient, layout := .split } importingTag .unimplemented)
        (⟨(), []⟩ : Session Unit) result t
      ∧ importLine "X" ∈ importsIn file.content.toList := by
  have passed : checkCollisions .split importingTag = .ok () :=
    checkCollisions_eq_ok.mpr (collisions_eq_nil_iff.mpr (by decide))
  obtain ⟨result, t, run⟩ := exists_yields_generate { mode := .ambient, layout := .split }
    importingTag .unimplemented (⟨(), []⟩ : Session Unit) passed
  obtain ⟨rendered, u, turns, -, same, imports, -⟩ := importsIn_generate run
  have stray : importLine "X" ∈ strayImports ("*/\n" ++ importLine "X" ++ "\n/*") := by decide
  have found : importLine "X" ∈ allImports result.files := by
    rw [imports rfl]
    -- The one field of the one collection is rendered, whatever its type.
    cases turns with
    | nil => cases same
    | cons kept head whole tail =>
      rw [List.map_cons] at same
      cases (List.cons.inj same).1
      cases head with
      | nil => cases whole
      | cons head kept others =>
        cases (List.cons.inj whole).1
        apply List.mem_flatMap.mpr
        exact ⟨_, List.mem_cons_self, mem_strays List.mem_cons_self List.mem_cons_self stray⟩
  obtain ⟨file, hf, found⟩ := List.mem_flatMap.mp found
  exact ⟨result, t, file, hf, run, found⟩

/-- An output can import an interface twice, or one that no field refers to. -/
theorem importsIn_exceptions :
    (∃ result t, ∃ index ∈ result.files,
        Step.Yields (generate { layout := .split } sharedIdentifier .unimplemented)
          (⟨(), []⟩ : Session Unit) result t
        ∧ index.path = "index.d.ts"
        ∧ importsIn index.content.toList = ["X", "X"].map importLine)
      ∧ ∃ result t, ∃ file ∈ result.files,
        Step.Yields (generate { mode := .ambient, layout := .split } importingTag .unimplemented)
          (⟨(), []⟩ : Session Unit) result t
        ∧ importLine "X" ∈ importsIn file.content.toList :=
  ⟨importsIn_index_sharedIdentifier, importLine_mem_importingTag⟩

end Typescribe.Declaration
