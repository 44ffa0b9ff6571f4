import Typescribe.Proofs.Choices.Serving

/-!
This module contains the agreement of prefetches with single lookups in a server that tells the
fields of a list of entries: a prefetch changes no type, whatever the entries are, as long as the
addresses of the fields are not too long to be asked for.
-/

namespace Typescribe.ChoiceSource

open Declaration (enumType?)
open Json (IsData IsReadNumber)
open Rest (Client Address ServesFields)

variable {σ : Type} {entries : List Value} {collection field : String} {d : FieldDefinition}
  {offer other : Option FieldDefinition}

theorem safeAnswer_eq_some_iff {answer : Except Fault (Option FieldDefinition)} :
    safeAnswer answer = some d ↔ answer = .ok (some d) := by
  cases answer with
  | error fault => simp [safeAnswer]
  | ok definition => simp [safeAnswer]

/-- What the entries say of one field, asked for on its own. -/
structure Tells (entries : List Value) (collection field : String)
    (offer : Option FieldDefinition) : Prop where
  known : ∀ entry ∈ entries, IsNamed collection field entry → IsData IsReadNumber entry →
    offer = safeAnswer ((entryDescribed entry).mapError .foreign)
  unknown : (∀ entry ∈ entries, IsNamed collection field entry → ¬IsData IsReadNumber entry) →
    offer = none

theorem Tells.eq (h : Tells entries collection field offer)
    (h' : Tells entries collection field other) : offer = other := by
  by_cases named : ∃ entry ∈ entries, IsNamed collection field entry ∧ IsData IsReadNumber entry
  · obtain ⟨entry, member, named, readable⟩ := named
    rw [h.known entry member named readable, h'.known entry member named readable]
  · have unknown : ∀ entry ∈ entries, IsNamed collection field entry →
        ¬IsData IsReadNumber entry := by
      intro entry member isNamed readable
      exact named ⟨entry, member, isNamed, readable⟩
    rw [h.unknown unknown, h'.unknown unknown]

section

variable {definitions : List FieldDefinition}

theorem Tells.of_mem_definitionsOf (h : Tells entries collection field offer)
    (data : ∀ entry ∈ entries, IsData IsReadNumber entry)
    (read : definitionsOf entries = .ok definitions) (mem : d ∈ definitions)
    (same : (d.collection, d.field) = (collection, field)) : offer = some d := by
  obtain ⟨-, entry, member, described⟩ := (mem_definitionsOf read).mp mem
  have readable := data entry member
  cases same
  rw [h.known entry member (isNamed_of_entryDescribed readable described) readable, described]
  rfl

/-- What is not among all definitions has no choices. -/
theorem Tells.choices_eq_nil (h : Tells entries collection field offer)
    (data : ∀ entry ∈ entries, IsData IsReadNumber entry)
    (read : definitionsOf entries = .ok definitions)
    (missing : ∀ d ∈ definitions, (d.collection, d.field) ≠ (collection, field))
    (told : offer = some d) : d.choices = [] := by
  by_contra choices
  obtain ⟨entry, member, named⟩ : ∃ entry ∈ entries, IsNamed collection field entry := by
    by_contra unnamed
    have nothing := h.unknown fun entry member named => absurd ⟨entry, member, named⟩ unnamed
    cases told.symm.trans nothing
  have readable := data entry member
  have described : entryDescribed entry = .ok (some d) := by
    rw [h.known entry member named readable, safeAnswer_eq_some_iff, mapError_eq_ok] at told
    exact told
  have again := isNamed_of_entryDescribed readable described
  have same : (d.collection, d.field) = (collection, field) := by
    cases again.1.symm.trans named.1
    cases again.2.symm.trans named.2
    rfl
  exact missing d ((mem_definitionsOf read).mpr ⟨choices, entry, member, described⟩) same

theorem Tells.enumType?_find? (h : Tells entries collection field offer)
    (data : ∀ entry ∈ entries, IsData IsReadNumber entry)
    (read : definitionsOf entries = .ok definitions) :
    enumType? (definitions.reverse.find? fun d => (d.collection, d.field) = (collection, field))
      = enumType? offer := by
  cases found : definitions.reverse.find? fun d =>
      (d.collection, d.field) = (collection, field) with
  | some d =>
    have mem := List.mem_reverse.mp (List.mem_of_find?_eq_some found)
    have same := List.find?_some found
    rw [h.of_mem_definitionsOf data read mem (of_decide_eq_true same)]
  | none =>
    have missing : ∀ d ∈ definitions, (d.collection, d.field) ≠ (collection, field) := by
      intro d mem same
      have rejected := List.find?_eq_none.mp found d (List.mem_reverse.mpr mem)
      exact rejected (decide_eq_true same)
    rw [enumType?_eq_none fun d told => h.choices_eq_nil data read missing told]
    rfl

end

theorem answerFor_of_isNamed {entry : Value} (data : IsData IsReadNumber entry)
    (named : IsNamed collection field entry) :
    answerFor collection field (.ok entry) = (entryDescribed entry).mapError .foreign := by
  have opened := Snapshot.opened_of_isData data
  have some := named.1
  rw [named.entryDescribed_eq]
  unfold Snapshot.memberOf Snapshot.pairsOf at some
  rw [opened] at some
  cases entry with
  | mapping pairs => rfl
  | _ => cases some

theorem safeAnswer_answerFor_error (collection field : String) (fault : Fault) :
    safeAnswer (answerFor collection field (.error fault)) = none := by
  rw [answerFor]
  split
  · rfl
  · cases Client.isFailedExchange fault with
    | none => rfl
    | some cause => rfl

/-! ### Lookups in a server -/

section

variable {client : Client σ} {address : Address} {authorization : Option String}

theorem tells_restLookup {root : List Char} (serves : ServesFields client.transport root entries)
    (target : client.target (fieldPath collection field) = .ok (address, authorization))
    (below : address.rawPath = root ++ Text.pathOf [collection.toList, field.toList])
    (typed : address.hasType) (s : Session σ) :
    Tells entries collection field
      (safeAnswer ((restLookup client collection field).run.run s).1) := by
  obtain ⟨reply, answers, run⟩ := (below ▸ serves.field collection field).fst_run_get target s
  rw [fst_run_restLookup, run, if_pos typed]
  constructor
  · intro entry member named readable
    rw [(answers.known entry member named).replyData_eq_ok readable]
    exact congrArg safeAnswer (answerFor_of_isNamed readable named)
  · intro unknown
    by_cases named : ∃ entry ∈ entries, IsNamed collection field entry
    · obtain ⟨entry, member, named⟩ := named
      obtain ⟨cause, failed⟩ := (answers.known entry member named).exists_replyData_eq_error
        (unknown entry member named)
      rw [failed]
      exact safeAnswer_answerFor_error collection field _
    · have refused := answers.unknown fun entry member isNamed => named ⟨entry, member, isNamed⟩
      have failed : Client.replyData (fieldPath collection field) reply
          = .error (.httpStatus reply.status) := by
        rw [Client.replyData, Rest.Reply.isSuccess, if_neg]
        rcases refused with same | same
        · simp [same]
        · simp [same]
      rw [failed]
      exact safeAnswer_answerFor_error collection field _

theorem safeAnswer_restLookup_of_not_hasType {root : List Char}
    (serves : ServesFields client.transport root entries)
    (target : client.target (fieldPath collection field) = .ok (address, authorization))
    (below : address.rawPath = root ++ Text.pathOf [collection.toList, field.toList])
    (untyped : ¬address.hasType) (s : Session σ) :
    safeAnswer ((restLookup client collection field).run.run s).1 = none := by
  obtain ⟨reply, -, run⟩ := (below ▸ serves.field collection field).fst_run_get target s
  rw [fst_run_restLookup, run, if_neg untyped]
  exact safeAnswer_answerFor_error collection field _

theorem fst_run_restLookup_of_target_eq_error {cause : Cause}
    (target : client.target (fieldPath collection field) = .error cause) (s : Session σ) :
    ((restLookup client collection field).run.run s).1
      = answerFor collection field (.error (.foreign cause)) := by
  rw [fst_run_restLookup, Client.run_get_of_target_eq_error target]

/-- Whoever is told all definitions has read all entries. -/
theorem of_restAll_eq_ok (serves : ServesFields client.transport address.rawPath entries)
    (target : client.target "/fields" = .ok (address, authorization)) {s : Session σ}
    {definitions : List FieldDefinition}
    (h : ((restAll client).run.run s).1 = .ok definitions) :
    address.hasType ∧ definitionsOf entries = .ok definitions
      ∧ ∀ entry ∈ entries, IsData IsReadNumber entry := by
  obtain ⟨reply, holds, run⟩ := serves.list.fst_run_get target s
  rw [fst_run_restAll, run] at h
  obtain ⟨data, got, h⟩ := bind_eq_ok.mp h
  rw [mapError_eq_ok] at got h
  split at got
  · next typed =>
    rw [mapError_eq_ok] at got
    have whole := holds.eq_of_replyData got
    subst whole
    rw [definitionsIn_list] at h
    exact ⟨typed, h, Snapshot.isData_of_mem (Rest.isData_of_replyData got)⟩
  · cases got

theorem restAll_ne_ok_of_target_eq_error {cause : Cause}
    (target : client.target "/fields" = .error cause) (s : Session σ)
    (definitions : List FieldDefinition) :
    ((restAll client).run.run s).1 ≠ .ok definitions := by
  intro h
  rw [fst_run_restAll, Client.run_get_of_target_eq_error target] at h
  cases h

theorem exists_sameOffer_prefetched_ofServer
    (serves : ∀ address authorization, client.target "/fields" = .ok (address, authorization) →
      ServesFields client.transport address.rawPath entries)
    (target : client.target (fieldPath collection field)
      = (client.target "/fields").map fun target =>
          (target.1.below [collection.toList, field.toList], target.2))
    (inner : σ) (log : List Log.Record) (s : Session σ) :
    let source := ofServer client
    ∃ succeeded t, Step.Yields source.prefetch ⟨{ inner }, log⟩ succeeded t
      ∧ source.cached.SameOffer t source s collection field := by
  intro source
  cases all : client.target "/fields" with
  | error cause =>
    rw [all] at target
    have single (s : Session σ) :
        safeAnswer ((source.lookup collection field).run.run s).1 = none := by
      refine (congrArg safeAnswer (fst_run_restLookup_of_target_eq_error target s)).trans ?_
      exact safeAnswer_answerFor_error collection field _
    refine exists_sameOffer_prefetched single (fun definitions read => ?_) s
    exact absurd read (restAll_ne_ok_of_target_eq_error all _ definitions)
  | ok found =>
    obtain ⟨address, authorization⟩ := found
    have serves := serves address authorization all
    rw [all] at target
    obtain ⟨below, sameType⟩ := Client.of_target all [collection.toList, field.toList]
    by_cases typed : address.hasType
    · have tells := tells_restLookup serves target below (sameType.trans typed)
      have single (s' : Session σ) : safeAnswer ((source.lookup collection field).run.run s').1
          = safeAnswer ((restLookup client collection field).run.run s).1 :=
        (tells s').eq (tells s)
      refine exists_sameOffer_prefetched single (fun definitions read => ?_) s
      obtain ⟨-, described, readable⟩ := of_restAll_eq_ok serves all read
      exact (tells s).enumType?_find? readable described
    · have untyped : ¬(address.below [collection.toList, field.toList]).hasType := by
        rwa [sameType]
      have single (s : Session σ) :
          safeAnswer ((source.lookup collection field).run.run s).1 = none :=
        safeAnswer_restLookup_of_not_hasType serves target below untyped s
      refine exists_sameOffer_prefetched single (fun definitions read => ?_) s
      exact absurd (of_restAll_eq_ok serves all read).1 typed

end

/--
Where the entries are served one by one and as a list, a prefetch leaves the type of each field as
it is, whether it succeeds or fails and whatever the entries hold. The names of the field must be no
points, which have a meaning of their own in a path, and the path of the field, on its own and
behind that of the server, no longer than an address can be.
-/
theorem sameOffer_of_servesFields {client : Client σ} {entries : List Value}
    (serves : ∀ address authorization, client.target "/fields" = .ok (address, authorization) →
      ServesFields client.transport address.rawPath entries)
    (collection field : String) (noPoint : ¬Text.IsPoint collection.toList)
    (noFieldPoint : ¬Text.IsPoint field.toList)
    (fits : (fieldPath collection field).toList.length ≤ Address.maxLength)
    (fitsBehind : ∀ server, client.address = .ok server →
      Address.IsWithinLimit (server.rawPath ++ (fieldPath collection field).toList.tail))
    (inner : σ) (log : List Log.Record) (s : Session σ) :
    let source := ofServer client
    ∃ succeeded t, Step.Yields source.prefetch ⟨{ inner }, log⟩ succeeded t
      ∧ source.cached.SameOffer t source s collection field := by
  intro source
  have path := toList_fieldPath collection field
  rw [path] at fits
  have points : ∀ segment ∈ [collection.toList, field.toList], ¬Text.IsPoint segment := by
    simp [noPoint, noFieldPoint]
  have behind : (fieldPath collection field).toList.tail
      = "fields".toList ++ Text.pathOf [collection.toList, field.toList] := by
    rw [path]
    rfl
  have target := Client.target_below client points fits fun server found => by
    rw [List.append_assoc, ← behind]
    exact fitsBehind server found
  rw [← path, String.ofList_toList] at target
  exact exists_sameOffer_prefetched_ofServer serves target inner log s

theorem sameOffer_of_servesFields_statusEntry :
    let source : ChoiceSource Unit := ofServer (statusClient "posts")
    ∃ t, Step.Yields source.prefetch ⟨{ inner := () }, []⟩ true t
      ∧ source.cached.SameOffer t source ⟨(), []⟩ "posts" "status" := by
  intro source
  have path : (fieldPath "posts" "status").toList = "/fields/posts/status".toList := by
    decide +kernel
  have short : (fieldPath "posts" "status").toList.length ≤ Address.maxLength := by
    rw [path]
    decide
  have shortBehind : ∀ server, (statusClient "posts" : Client Unit).address = .ok server →
      Address.IsWithinLimit (server.rawPath ++ (fieldPath "posts" "status").toList.tail) := by
    intro server found
    rw [address_statusClient] at found
    cases found
    rw [path]
    decide +kernel
  obtain ⟨succeeded, t, ending, same⟩ := sameOffer_of_servesFields
    (servesFields_statusClient "posts") "posts" "status" (by decide) (by decide) short shortBehind
    () [] ⟨(), []⟩
  obtain ⟨u, told, -⟩ := exists_yields_prefetch_statusClient "posts" () []
  cases told.symm.trans ending
  exact ⟨t, ending, same⟩

theorem not_sameOffer_of_long {collection : String}
    (long : Address.maxLength ≤ collection.toList.length) (inner : σ) (log : List Log.Record)
    (s : Session σ) :
    let source := ofServer (statusClient collection)
    ∃ t, Step.Yields source.prefetch ⟨{ inner }, log⟩ true t
      ∧ ¬source.cached.SameOffer t source s collection "status" := by
  intro source
  obtain ⟨t, ending, found⟩ := exists_yields_prefetch_statusClient collection inner log
  refine ⟨t, ending, ?_⟩
  have single : ((restLookup (statusClient collection) collection "status").run.run s).1
      = .error (.foreign .invalidUrl) := by
    rw [fst_run_restLookup, Client.run_get_of_target_eq_error (target_of_long long)]
    rfl
  rw [sameOffer_iff]
  change ¬Declaration.enumType? (safeAnswer
      ((source.cachedLookup collection "status").run.run t).1)
    = Declaration.enumType? (safeAnswer
      ((restLookup (statusClient collection) collection "status").run.run s).1)
  rw [found, single]
  have new : Declaration.enumType? (safeAnswer (.ok (some (statusDefinition collection))))
      = .ok (some "'new'") := rfl
  have nothing : Declaration.enumType? (safeAnswer (.error (.foreign .invalidUrl)))
      = .ok none := rfl
  rw [new, nothing]
  simp

/--
A field whose name makes its address too long is told in the list of all fields, but it cannot be
asked for on its own.
-/
theorem not_sameOffer_longName :
    let name := String.ofList (List.replicate 65536 'a')
    let client : Client Unit := statusClient name
    (∀ address authorization, client.target "/fields" = .ok (address, authorization) →
        ServesFields client.transport address.rawPath [statusEntry name])
      ∧ ¬Text.IsPoint name.toList ∧ ¬Text.IsPoint "status".toList
      ∧ ∃ t, Step.Yields (ofServer client).prefetch ⟨{ inner := () }, []⟩ true t
        ∧ ¬(ofServer client).cached.SameOffer t (ofServer client) ⟨(), []⟩ name "status" := by
  intro name client
  have length : name.toList.length = 65536 := by
    rw [String.toList_ofList, List.length_replicate]
  have noPoint : ¬Text.IsPoint name.toList := by
    rintro (one | two)
    · rw [one] at length
      cases length
    · rw [two] at length
      cases length
  exact ⟨servesFields_statusClient name, noPoint, by decide,
    not_sameOffer_of_long (Nat.le_of_eq length.symm) () [] ⟨(), []⟩⟩

end Typescribe.ChoiceSource
