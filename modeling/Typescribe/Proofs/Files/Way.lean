import Typescribe.Files.Tree
import Typescribe.Proofs.Ordered

/-!
This module contains the ways on which names lead from a place to another one, as a relation: down
into directories, up, and on through links. In a tree without links there are no detours.
-/

namespace Typescribe.FileTree

/-- Names lead from a place to another one, through so many links at most. -/
inductive Leads (tree : FileTree) (followsLast : Bool) :
    (links : Nat) → (place names target : List String) → Prop where
  | here (links : Nat) (place : List String) : Leads _ _ links place [] place
  | up {links : Nat} {place names target : List String}
    (inside : tree.entryAt? place = some .directory)
    (further : Leads tree followsLast links place.dropLast names target) :
    Leads _ _ links place (".." :: names) target
  | down {links : Nat} {place names target : List String} {name : String}
    (inside : tree.entryAt? place = some .directory) (notUp : name ≠ "..")
    (short : ¬maxNameSize < name.utf8ByteSize)
    (noLink : ∀ link, tree.entryAt? (place ++ [tree.fold name]) ≠ some (.link link))
    (further : Leads tree followsLast links (place ++ [tree.fold name]) names target) :
    Leads _ _ links place (name :: names) target
  | stop {links : Nat} {place : List String} {name : String} {link : FilePath}
    (inside : tree.entryAt? place = some .directory) (notUp : name ≠ "..")
    (short : ¬maxNameSize < name.utf8ByteSize)
    (found : tree.entryAt? (place ++ [tree.fold name]) = some (.link link))
    (stays : followsLast = false) : Leads _ _ links place [name] (place ++ [tree.fold name])
  | follow {links : Nat} {place names target : List String} {name : String} {link : FilePath}
    (inside : tree.entryAt? place = some .directory) (notUp : name ≠ "..")
    (short : ¬maxNameSize < name.utf8ByteSize)
    (found : tree.entryAt? (place ++ [tree.fold name]) = some (.link link))
    (follows : names = [] → followsLast = true)
    (further : Leads tree followsLast links (if link.isAbsolute then [] else place)
      (link.parts ++ names) target) :
    Leads _ _ (links + 1) place (name :: names) target

variable {tree : FileTree} {followsLast : Bool} {links : Nat} {place names others target : List String}

theorem leads_of_walkWith
    {follow : List String → FilePath → List String → Except FileFault (List String)}
    (further : ∀ place link names, follow place link names = .ok target →
      ∃ left, links = left + 1 ∧ tree.Leads followsLast left (if link.isAbsolute then [] else place)
        (link.parts ++ names) target)
    (led : tree.walkWith followsLast follow place names = .ok target) :
    tree.Leads followsLast links place names target := by
  induction names generalizing place with
  | nil =>
    cases led
    exact .here _ _
  | cons name names ih =>
    unfold walkWith at led
    split at led
    · cases led
    · next inside =>
      split at led
      · next up =>
        subst up
        exact .up inside (ih led)
      · next notUp =>
        split at led
        · cases led
        · next short =>
          simp only at led
          split at led
          · next link found =>
            split at led
            · next last =>
              simp only [Bool.and_eq_true, decide_eq_true_eq, Bool.not_eq_true'] at last
              obtain ⟨rfl, stays⟩ := last
              cases led
              exact .stop inside notUp short found stays
            · next goesOn =>
              obtain ⟨left, rfl, way⟩ := further _ _ _ led
              exact .follow inside notUp short found (by simpa using goesOn) way
          · next noLink => exact .down inside notUp short noLink (ih led)
    · cases led

theorem leads_of_walk (led : tree.walk followsLast links place names = .ok target) :
    tree.Leads followsLast links place names target := by
  induction links generalizing place names with
  | zero =>
    unfold walk at led
    exact leads_of_walkWith (fun _ _ _ further => by cases further) led
  | succ links ih =>
    unfold walk at led
    exact leads_of_walkWith (fun _ _ _ further => ⟨links, rfl, ih further⟩) led

theorem walk_of_leads (h : tree.Leads followsLast links place names target) :
    tree.walk followsLast links place names = .ok target := by
  induction h with
  | here links place => cases links <;> rfl
  | @up links place names target inside further ih =>
    cases links <;> simpa [walk, walkWith, inside] using ih
  | @down links place names target name inside notUp short noLink further ih =>
    cases links <;> simpa [walk, walkWith, inside, notUp, short, noLink] using ih
  | @stop links place name link inside notUp short found stays =>
    cases links <;> simp [walk, walkWith, inside, notUp, short, found, stays]
  | @follow links place names target name link inside notUp short found follows further ih =>
    have followed : ¬(names = [] ∧ followsLast = false) :=
      fun last => absurd (follows last.1) (by rw [last.2]; exact Bool.false_ne_true)
    simpa [walk, walkWith, inside, notUp, short, found, followed] using ih

theorem walk_eq_ok : tree.walk followsLast links place names = .ok target
    ↔ tree.Leads followsLast links place names target :=
  ⟨leads_of_walk, walk_of_leads⟩

theorem resolve_eq_ok {path : FilePath} :
    tree.resolve followsLast path = .ok place
      ↔ ¬maxPathSize < path.text.utf8ByteSize
        ∧ tree.Leads followsLast maxLinks (if path.isAbsolute then [] else tree.workingDirectory)
          path.parts place := by
  unfold resolve
  split
  · next long => exact iff_of_false nofun fun h => h.1 long
  · next short => rw [walk_eq_ok, and_iff_right short]

/-- A way that does not follow a link with the last name is a way that would, unless it ends at one. -/
theorem Leads.throughLast (h : tree.Leads false links place names target)
    (noLink : ∀ link, tree.entryAt? target ≠ some (.link link)) :
    tree.Leads true links place names target := by
  induction h with
  | here links place => exact .here links place
  | up inside _ ih => exact .up inside (ih noLink)
  | down inside notUp short elsewhere _ ih => exact .down inside notUp short elsewhere (ih noLink)
  | stop _ _ _ found _ => exact absurd found (noLink _)
  | follow inside notUp short found _ _ ih =>
    exact .follow inside notUp short found (fun _ => rfl) (ih noLink)

def IsLinkFree (tree : FileTree) : Prop :=
  ∀ place link, tree.entryAt? place ≠ some (.link link)

theorem isLinkFree_of_entries
    (h : ∀ item ∈ tree.entries, item.2 matches .file _ | .directory) : tree.IsLinkFree := by
  intro place link found
  unfold entryAt? at found
  split at found
  · cases found
  · exact absurd (h _ (Ordered.mem_of_get?_eq_some found)) Bool.false_ne_true

theorem Leads.rest {middle : List String} (free : tree.IsLinkFree)
    (h : tree.Leads followsLast links place names middle)
    (led : tree.Leads followsLast links place (names ++ others) target) :
    tree.Leads followsLast links middle others target := by
  induction h with
  | here => exact led
  | @up _ _ names _ _ _ ih =>
    rw [List.cons_append] at led
    generalize names ++ others = more at led ih
    cases led with
    | up _ further => exact ih further
    | down _ notUp => exact absurd rfl notUp
    | stop _ notUp => exact absurd rfl notUp
    | follow _ notUp => exact absurd rfl notUp
  | @down _ _ names _ _ _ notUp _ noLink _ ih =>
    rw [List.cons_append] at led
    generalize names ++ others = more at led ih
    cases led with
    | up => exact absurd rfl notUp
    | down _ _ _ _ further => exact ih further
    | stop _ _ _ found => exact absurd found (noLink _)
    | follow _ _ _ found => exact absurd found (noLink _)
  | stop _ _ _ found => exact absurd found (free _ _)
  | follow _ _ _ found => exact absurd found (free _ _)

theorem Leads.eq_append_map (free : tree.IsLinkFree) (notUp : ".." ∉ names)
    (h : tree.Leads followsLast links place names target) :
    target = place ++ names.map tree.fold := by
  induction h with
  | here => rw [List.map_nil, List.append_nil]
  | up => exact absurd List.mem_cons_self notUp
  | down _ _ _ _ _ ih =>
    rw [List.mem_cons, not_or] at notUp
    rw [ih notUp.2, List.append_assoc, List.map_cons, List.singleton_append]
  | stop _ _ _ found => exact absurd found (free _ _)
  | follow _ _ _ found => exact absurd found (free _ _)

end Typescribe.FileTree
