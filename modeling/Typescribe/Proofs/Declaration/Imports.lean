import Typescribe.Declaration.Generation
import Typescribe.Proofs.Declaration.Reading

/-!
This module contains readers of the files of a split output: of the import lines at the head of a
file, of the interface that a file declares, and of the entries of the index.
-/

namespace Typescribe.Declaration

def readImport? (line : List Char) : Option String := do
  let start ← Text.behind? "import type \x7b ".toList line
  let (name, rest) ← Text.cutAt ' ' start
  if rest = "\x7d from \"./".toList ++ (name ++ ['"', ';']) then some (String.ofList name) else none

/-- Reads the lines at the head of a text that import interfaces. Gives the names and the rest. -/
def readImports (cs : List Char) : List String × List Char :=
  match _found : Text.cutAt '\n' cs with
  | some (line, rest) =>
    match readImport? line with
    | some name => (name :: (readImports rest).1, (readImports rest).2)
    | none => ([], cs)
  | none => ([], cs)
termination_by cs.length
decreasing_by exact Text.length_lt_of_cutAt _found

def importsOf (content : String) : List String :=
  (readImports content.toList).1

/-- A file without the lines at its head that import interfaces, and without the empty line. -/
def bodyOf (content : String) : List Char :=
  match (readImports content.toList).2 with
  | '\n' :: rest => rest
  | rest => rest

def declaredIn? (content : String) : Option String :=
  (readHeader? (bodyOf content)).map fun header => header.1.2

def readEntry? (cs : List Char) : Option (String × List Char) := do
  let start ← Text.behind? [' ', ' '] cs
  let (_, behind) ← Naming.readKey? start
  let value ← Text.behind? [':', ' '] (Text.trimStart behind)
  let (type, rest) ← Text.cutAt ';' value
  let rest ← Text.behind? ['\n'] rest
  let name := type.takeWhile Naming.isSafe
  if type = name ∨ type = name ++ ['[', ']'] then some (String.ofList name, rest) else none

/-- Reads the interfaces of the items in an index, entry by entry. -/
def readIndex? (cs : List Char) : Option (List String) := do
  let (_, start) ← Text.cutAt ' ' cs
  let entries ← Text.behind? "type Collections = \x7b\n".toList start
  Text.readAll? readEntry? ['}', '\n'] entries

/-- A name that an interface can have: it goes on as long as its characters are safe. -/
def IsPlainName (name : String) : Prop := ∀ c ∈ name.toList, Naming.isSafe c

theorem isPlainName_className (id : String) : IsPlainName (Naming.className id) :=
  Naming.isSafe_of_mem_className

theorem IsPlainName.not_mem {name : String} (h : IsPlainName name) {c : Char}
    (hc : Naming.isSafe c = false) : c ∉ name.toList := by
  intro hn
  rw [h c hn] at hc
  cases hc

theorem toList_importLine (name : String) :
    (importLine name).toList = "import type \x7b ".toList ++ (name.toList
      ++ ' ' :: ("\x7d from \"./".toList ++ (name.toList ++ ['"', ';']))) := by
  unfold importLine
  simp

theorem readImport?_importLine {name : String} (h : IsPlainName name) :
    readImport? (importLine name).toList = some name := by
  have cut := Text.cutAt_append_cons (h.not_mem (c := ' ') (by decide))
    ("\x7d from \"./".toList ++ (name.toList ++ ['"', ';']))
  rw [toList_importLine, readImport?, Text.behind?_append, Option.bind_eq_bind, Option.bind_some,
    cut, Option.bind_eq_bind, Option.bind_some]
  simp only [if_true, String.ofList_toList]

theorem newline_not_mem_importLine {name : String} (h : IsPlainName name) :
    '\n' ∉ (importLine name).toList := by
  have absent := h.not_mem (c := '\n') (by decide)
  rw [toList_importLine]
  simp [absent]

theorem readImport?_of_head {line : List Char} (h : line.head? ≠ some 'i') :
    readImport? line = none := by
  cases line with
  | nil => rfl
  | cons c line =>
    have other : 'i' ≠ c := fun same => h (by rw [← same]; rfl)
    have start : "import type \x7b ".toList = 'i' :: "mport type \x7b ".toList := rfl
    rw [readImport?, start, Text.behind?_of_ne other]
    rfl

theorem readImports_of_head {cs : List Char} (h : cs.head? ≠ some 'i') :
    readImports cs = ([], cs) := by
  rw [readImports]
  split
  · next line rest found =>
    obtain ⟨rfl, -⟩ := Text.eq_append_of_cutAt found
    have none : readImport? line = none := by
      apply readImport?_of_head
      cases line with
      | nil => simp
      | cons c line => simpa using h
    rw [none]
  · rfl

theorem readImports_unlines {names : List String} (h : ∀ name ∈ names, IsPlainName name)
    {rest : List Char} (stop : readImports rest = ([], rest)) :
    readImports (unlines (names.map importLine) ++ rest) = (names, rest) := by
  induction names with
  | nil => exact stop
  | cons name names ih =>
    have plain := h name List.mem_cons_self
    have others := ih fun n hn => h n (List.mem_cons_of_mem _ hn)
    have cut := Text.cutAt_append_cons (newline_not_mem_importLine plain)
      (unlines (names.map importLine) ++ rest)
    rw [List.map_cons, unlines_cons, List.append_assoc, List.cons_append, readImports]
    split
    · next found =>
      rw [cut] at found
      cases found
      rw [readImport?_importLine plain, others]
    · next missing =>
      rw [cut] at missing
      cases missing

/-- A text that starts like a declaration: not with an import, and not with an empty line. -/
def StartsPlainly (source : String) : Prop :=
  source.toList.head? ≠ some 'i' ∧ source.toList.head? ≠ some '\n'

theorem toList_withImports {names : List String} (h : names ≠ []) (source : String) :
    (withImports (names.map importLine) source).toList
      = unlines (names.map importLine) ++ '\n' :: source.toList := by
  have lines : names.map importLine ≠ [] := by simpa using h
  have split : String.intercalate "\n" (names.map importLine) ++ "\n\n" ++ source
      = linesText (names.map importLine) ++ ("\n" ++ source) := by
    simp only [linesText, String.append_assoc]
    rfl
  rw [withImports, if_neg (by simpa using h), split, String.toList_append, toList_linesText lines]
  simp

theorem importsOf_withImports {names : List String} {source : String}
    (h : ∀ name ∈ names, IsPlainName name) (hs : StartsPlainly source) :
    importsOf (withImports (names.map importLine) source) = names
      ∧ bodyOf (withImports (names.map importLine) source) = source.toList := by
  have body : ∀ rest : List Char, rest = source.toList →
      (match rest with | '\n' :: tail => tail | rest => rest) = source.toList := by
    rintro rest rfl
    split
    · next tail start => exact absurd (by rw [start]; rfl) hs.2
    · rfl
  by_cases none : names = []
  · subst none
    have read := readImports_of_head hs.1
    unfold importsOf bodyOf
    rw [List.map_nil, withImports, if_pos List.isEmpty_nil, read]
    exact ⟨rfl, body _ rfl⟩
  · -- The empty line behind the imports is where the reader of imports stops.
    have stop : readImports ('\n' :: source.toList) = ([], '\n' :: source.toList) :=
      readImports_of_head (by simp)
    unfold importsOf bodyOf
    rw [toList_withImports none, readImports_unlines h stop]
    exact ⟨rfl, rfl⟩

def imported (config : Config) (names : List String) : List String :=
  match config.mode with
  | .ambient => []
  | .exported => names

theorem importsOf_importLines (config : Config) {names : List String} {source : String}
    (h : ∀ name ∈ names, IsPlainName name) (hs : StartsPlainly source) :
    importsOf (withImports (importLines config names) source) = imported config names
      ∧ bodyOf (withImports (importLines config names) source) = source.toList := by
  unfold importLines imported
  cases config.mode with
  | exported => exact importsOf_withImports h hs
  | ambient => exact importsOf_withImports (fun _ hn => absurd hn List.not_mem_nil) hs

theorem startsPlainly_of_keyword (config : Config) {source : String} {rest : List Char}
    (h : source.toList = config.keyword.toList ++ rest) : StartsPlainly source := by
  unfold StartsPlainly
  rw [h]
  unfold Config.keyword
  cases config.mode <;> simp [Mode.keyword]

theorem startsPlainly_indexSource (config : Config) (collections : List Collection) :
    StartsPlainly (indexSource config collections) := by
  unfold indexSource
  apply startsPlainly_of_keyword config
  rw [toList_linesText (by simp), List.cons_append, unlines_cons, String.toList_append,
    List.append_assoc]

theorem exists_toList_source (config : Config) (collection : Collection) (members : List Member) :
    ∃ rest, (Interface.ofMembers config collection members).source.toList
      = config.keyword.toList ++ rest := by
  simp only [Interface.ofMembers]
  rw [toList_linesText (by simp), List.cons_append, unlines_cons, String.append_assoc,
    String.append_assoc, String.toList_append, List.append_assoc]
  exact ⟨_, rfl⟩

theorem startsPlainly_source (config : Config) (collection : Collection) (members : List Member) :
    StartsPlainly (Interface.ofMembers config collection members).source := by
  obtain ⟨rest, source⟩ := exists_toList_source config collection members
  exact startsPlainly_of_keyword config source

theorem readEntry?_indexEntry (collection : Collection) (rest : List Char) :
    readEntry? ((indexEntry collection).toList ++ '\n' :: rest)
      = some (Naming.className collection.collection, rest) := by
  have plain := isPlainName_className collection.collection
  let mark : List Char := if collection.singleton then [] else ['[', ']']
  have marks : mark = [] ∨ mark = ['[', ']'] := by
    unfold mark
    cases collection.singleton <;> simp
  have entry : (indexEntry collection).toList ++ '\n' :: rest
      = [' ', ' '] ++ ((Naming.propertyKey collection.collection).toList ++ ':' :: ([' ']
        ++ ((Naming.className collection.collection).toList ++ mark ++ ';' :: (['\n'] ++ rest)))) := by
    unfold indexEntry mark
    cases collection.singleton <;> simp
  have name : ((Naming.className collection.collection).toList ++ mark).takeWhile Naming.isSafe
      = (Naming.className collection.collection).toList := by
    rw [List.takeWhile_append_of_pos plain]
    rcases marks with marks | marks <;> simp [marks, Naming.isSafe]
  have stop : ';' ∉ (Naming.className collection.collection).toList ++ mark := by
    rw [List.mem_append, not_or]
    refine ⟨plain.not_mem rfl, ?_⟩
    rcases marks with marks | marks <;> simp [marks]
  -- The key of an identifier with a line feed behind it is read without the line feed.
  obtain ⟨key, behind, read, trimmed, -⟩ := Naming.exists_readKey?_propertyKey
    collection.collection ([' '] ++ ((Naming.className collection.collection).toList ++ mark
      ++ ';' :: (['\n'] ++ rest)))
  have value (tail : List Char) : Text.behind? [':', ' '] (':' :: ([' '] ++ tail)) = some tail :=
    Text.behind?_append [':', ' '] tail
  unfold readEntry?
  rw [entry, Text.behind?_append, Option.bind_eq_bind, Option.bind_some, read,
    Option.bind_eq_bind, Option.bind_some]
  simp only [trimmed, value, Option.bind_eq_bind, Option.bind_some,
    Text.cutAt_append_cons stop, Text.behind?_append, name, String.ofList_toList]
  rw [if_pos (by simpa using marks)]

theorem readIndex?_indexSource (config : Config) (collections : List Collection) :
    readIndex? (indexSource config collections).toList
      = some (collections.map fun c => Naming.className c.collection) := by
  have keyword : ' ' ∉ config.keyword.toList := not_mem_keyword config rfl
  have source : (indexSource config collections).toList
      = config.keyword.toList ++ ' ' :: ("type Collections = \x7b\n".toList
        ++ (collections.flatMap (fun c => (indexEntry c).toList ++ ['\n']) ++ ['\x7d', '\n'])) := by
    unfold indexSource
    rw [toList_linesText (by simp), List.cons_append, unlines_cons, unlines_append]
    simp [unlines, List.flatMap_map]
  unfold readIndex?
  rw [source, Text.cutAt_append_cons keyword, Option.bind_eq_bind, Option.bind_some]
  simp only
  rw [Text.behind?_append, Option.bind_eq_bind, Option.bind_some]
  apply Text.readAll?_flatMap
  · intro collection _
    simp
  · intro collection _ rest
    simp [indexEntry]
  · intro collection _ rest
    rw [List.append_assoc]
    exact readEntry?_indexEntry collection rest

end Typescribe.Declaration
