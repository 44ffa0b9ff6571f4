import Typescribe.Declaration.Index
import Typescribe.Proofs.Naming.PropertyKey
import Typescribe.Proofs.Text.Split

/-!
This module contains the keys of members in interfaces and in the index of all collections, as they
are read from the lines of the members. A key denotes the name it was written for, unless the name
is an identifier with a line feed behind it: such a name is taken for the identifier.
-/

namespace Typescribe.Declaration

/-- Reads the key in the line of a member; there can be white space behind it. -/
def keyOf? (line : String) : Option String := do
  let start ← Text.behind? [' ', ' '] line.toList
  let (name, behind) ← Naming.readKey? start
  let _ ← Text.behind? [':', ' '] (Text.trimStart behind)
  return name

theorem exists_keyOf? (name type : String) :
    ∃ key, keyOf? ("  " ++ Naming.propertyKey name ++ ": " ++ type) = some key
      ∧ (key = name ↔ ¬Naming.IsFedIdentifier name) := by
  obtain ⟨key, behind, read, trimmed, same⟩ :=
    Naming.exists_readKey?_propertyKey name (' ' :: type.toList)
  have line : ("  " ++ Naming.propertyKey name ++ ": " ++ type).toList
      = [' ', ' '] ++ ((Naming.propertyKey name).toList ++ ':' :: ' ' :: type.toList) := by
    simp
  have value : Text.behind? [':', ' '] (':' :: ' ' :: type.toList) = some type.toList :=
    Text.behind?_append [':', ' '] type.toList
  refine ⟨key, ?_, same⟩
  unfold keyOf?
  rw [line, Text.behind?_append, Option.bind_eq_bind, Option.bind_some, read,
    Option.bind_eq_bind, Option.bind_some]
  simp only [trimmed, value]
  rfl

/-- Reads the key in the line of the member of a field. -/
def memberKey? (field : Field) (type : String) : Option String :=
  (memberLines field type).getLast?.bind keyOf?

theorem memberKey?_eq_some_iff (field : Field) (type : String) :
    memberKey? field type = some field.field ↔ ¬Naming.IsFedIdentifier field.field := by
  obtain ⟨key, read, same⟩ := exists_keyOf? field.field (type ++ ";")
  rw [memberKey?, memberLines, List.getLast?_concat, Option.bind_some, String.append_assoc, read,
    Option.some.injEq, same]

theorem keyOf?_indexEntry_eq_some_iff (collection : Collection) :
    keyOf? (indexEntry collection) = some collection.collection
      ↔ ¬Naming.IsFedIdentifier collection.collection := by
  have entry : indexEntry collection = "  " ++ Naming.propertyKey collection.collection ++ ": "
      ++ (Naming.className collection.collection ++ (if collection.singleton then "" else "[]")
        ++ ";") := by
    simp only [indexEntry, String.append_assoc]
  obtain ⟨key, read, same⟩ := exists_keyOf? collection.collection
    (Naming.className collection.collection ++ (if collection.singleton then "" else "[]") ++ ";")
  rw [entry, read, Option.some.injEq, same]

/--
The key of a name denotes the name and no other one, unless the name is an identifier with a line
feed behind it. So the names of two fields and the names of two collections are told apart by the
keys in their lines, and a name is what is read from its line.
-/
theorem propertyKey_denotes_iff (name other : String) (a b : Field) (s t : String)
    (c d : Collection) :
    (Naming.IsKeyOf other (Naming.propertyKey name).toList
        ↔ other = name ∧ ¬Naming.IsFedIdentifier name)
      ∧ (memberKey? a s = some a.field ↔ ¬Naming.IsFedIdentifier a.field)
      ∧ (keyOf? (indexEntry c) = some c.collection ↔ ¬Naming.IsFedIdentifier c.collection)
      ∧ (¬Naming.IsFedIdentifier a.field → ¬Naming.IsFedIdentifier b.field →
        memberKey? a s = memberKey? b t → a.field = b.field)
      ∧ (¬Naming.IsFedIdentifier c.collection → ¬Naming.IsFedIdentifier d.collection →
        keyOf? (indexEntry c) = keyOf? (indexEntry d) → c.collection = d.collection) := by
  refine ⟨?_, memberKey?_eq_some_iff a s, keyOf?_indexEntry_eq_some_iff c, ?_, ?_⟩
  · constructor
    · intro key
      obtain rfl := Naming.eq_of_isKeyOf_propertyKey key
      exact ⟨rfl, Naming.isKeyOf_propertyKey_iff.mp key⟩
    · rintro ⟨rfl, notFed⟩
      exact Naming.isKeyOf_propertyKey_iff.mpr notFed
  · intro ha hb same
    rw [(memberKey?_eq_some_iff a s).mpr ha, (memberKey?_eq_some_iff b t).mpr hb] at same
    exact Option.some.inj same
  · intro hc hd same
    rw [(keyOf?_indexEntry_eq_some_iff c).mpr hc, (keyOf?_indexEntry_eq_some_iff d).mpr hd] at same
    exact Option.some.inj same

/-- Two fields, one of which has a name that needs quotes, escapes and no line of its own. -/
theorem propertyKey_denotes_hostileName :
    ¬Naming.IsFedIdentifier "a\"b;\n" ∧ ¬Naming.IsFedIdentifier "status"
      ∧ Naming.IsKeyOf "a\"b;\n" "\"a\\\"b;\\n\"".toList
      ∧ memberKey? { collection := "posts", field := "a\"b;\n" } "string"
        ≠ memberKey? { collection := "posts", field := "status" } "string" := by
  have quoted : ¬Naming.IsFedIdentifier "a\"b;\n" := fun fed =>
    absurd (Naming.isIdentifierLine_iff.mpr (.inr fed)) (by decide)
  have plain : ¬Naming.IsFedIdentifier "status" := fun fed => absurd fed.getLast? (by decide)
  have written : Naming.propertyKey "a\"b;\n" = "\"a\\\"b;\\n\"" := by decide
  obtain ⟨key, -, -, apart, -⟩ := propertyKey_denotes_iff "a\"b;\n" "a\"b;\n"
    { collection := "posts", field := "a\"b;\n" } { collection := "posts", field := "status" }
    "string" "string" { collection := "posts" } { collection := "posts" }
  refine ⟨quoted, plain, ?_, fun same => ?_⟩
  · rw [← written]
    exact key.mpr ⟨rfl, quoted⟩
  · exact absurd (apart quoted plain same) (by decide)

/-- An identifier with a line feed behind it has no key, and is taken for the identifier. -/
theorem not_isKeyOf_fedStatus :
    ¬Naming.IsKeyOf "status\n" (Naming.propertyKey "status\n").toList
      ∧ memberKey? { collection := "posts", field := "status\n" } "string"
        = memberKey? { collection := "posts", field := "status" } "string" := by
  have fed : Naming.IsFedIdentifier "status\n" := ⟨"status".toList, rfl, rfl⟩
  exact ⟨Naming.not_isKeyOf_of_isFedIdentifier fed, by decide⟩

end Typescribe.Declaration
