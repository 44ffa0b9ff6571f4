import Typescribe.Proofs.Choices.Rest

/-!
This module contains what a server owes that tells the fields of a list of entries, the list itself
at one address and each entry below it, and a server that pays it.
-/

namespace Typescribe

open Json (IsData IsReadNumber IsExact)
open Snapshot (memberOf)

variable {σ : Type}

namespace Rest

/-- Whenever a request is made for a path, it gets a reply, and a good one. -/
def Replies (transport : Transport σ) (rawPath : List Char) (good : Reply → Prop) : Prop :=
  ∀ request : Request, request.rawPath = String.ofList rawPath →
    ∀ s, ∃ reply t, Step.Yields (transport request) s reply t ∧ good reply

theorem Replies.fst_run_get {client : Client σ} {path : String} {address : Address}
    {authorization : Option String} {good : Reply → Prop}
    (h : Replies client.transport address.rawPath good)
    (target : client.target path = .ok (address, authorization)) (s : Session σ) :
    ∃ reply, good reply ∧ ((client.get path).run.run s).1
      = if address.hasType then (Client.replyData path reply).mapError .foreign
        else .error (.foreign (.badValue address.unknownTypeText)) := by
  obtain ⟨reply, t, replied, isGood⟩ := h (Client.requestFor address authorization) rfl s
  exact ⟨reply, isGood, Client.fst_run_get target replied⟩

/-- What is read from a reply is data. -/
theorem isData_of_replyData {path : String} {reply : Reply} {value : Value}
    (h : Client.replyData path reply = .ok value) : IsData IsReadNumber value := by
  unfold Client.replyData Client.dataOf at h
  split at h
  · split at h
    · cases h
    · obtain ⟨document, read, h⟩ := bind_eq_ok.mp h
      have data := Snapshot.isData_of_readJson read
      split at h
      · next pairs =>
        cases h
        cases found : Value.lookup "data" pairs with
        | none => exact .null
        | some value => exact Snapshot.isData_of_lookup data found
      · cases h
  · cases h

/--
A reply that holds data: they are read from it as they are, unless the reading fails at a number
that is too long.
-/
def Holds (path : String) (data : Value) (reply : Reply) : Prop :=
  Client.replyData path reply = .ok data
    ∨ ¬IsData IsReadNumber data ∧ ∃ cause, Client.replyData path reply = .error cause

namespace Holds

variable {path : String} {data value : Value} {reply : Reply}

theorem replyData_eq_ok (h : Holds path data reply) (readable : IsData IsReadNumber data) :
    Client.replyData path reply = .ok data :=
  h.resolve_right fun unreadable => unreadable.1 readable

theorem exists_replyData_eq_error (h : Holds path data reply)
    (unreadable : ¬IsData IsReadNumber data) :
    ∃ cause, Client.replyData path reply = .error cause :=
  (h.resolve_left fun read => unreadable (isData_of_replyData read)).2

theorem eq_of_replyData (h : Holds path data reply)
    (read : Client.replyData path reply = .ok value) : value = data := by
  rcases h with same | ⟨-, cause, failed⟩
  · cases same.symm.trans read
    rfl
  · cases failed.symm.trans read

end Holds

/-- What is owed to who asks for a field: the entry with its names, or a refusal. -/
structure IsAnswer (entries : List Value) (collection field : String) (reply : Reply) : Prop where
  known : ∀ entry ∈ entries, ChoiceSource.IsNamed collection field entry →
    Holds (ChoiceSource.fieldPath collection field) entry reply
  unknown : (∀ entry ∈ entries, ¬ChoiceSource.IsNamed collection field entry) →
    reply.status = 403 ∨ reply.status = 404

/--
What a server owes that tells the fields of a list of entries: the list itself at a path, and below
it each field at the path with its names. Entries of the same names are therefore equal.
-/
structure ServesFields (transport : Transport σ) (root : List Char) (entries : List Value) :
    Prop where
  list : Replies transport root (Holds "/fields" (.list entries))
  field : ∀ collection field,
    Replies transport (root ++ Text.pathOf [collection.toList, field.toList])
      (IsAnswer entries collection field)

end Rest

namespace ChoiceSource

open Rest (Address Client Reply Request Transport ServesFields)

variable {collection field : String}

/-! ### A server for any entries -/

/-- The path of an entry that is named by texts, below that of all entries. -/
def namedPath? (entry : Value) : Option (List Char) :=
  match memberOf "collection" entry, memberOf "field" entry with
  | some (.text collection), some (.text field) =>
    some (Text.pathOf [collection.toList, field.toList])
  | _, _ => none

theorem namedPath?_eq_some_iff {entry : Value} :
    namedPath? entry = some (Text.pathOf [collection.toList, field.toList])
      ↔ IsNamed collection field entry := by
  constructor
  · unfold namedPath?
    split
    · next first second =>
      intro same
      have names := Text.pathOf_inj (Option.some.inj same)
      rw [List.cons.injEq, List.cons.injEq, String.toList_inj, String.toList_inj] at names
      obtain ⟨rfl, rfl, -⟩ := names
      exact ⟨first, second⟩
    · intro none
      cases none
  · intro named
    rw [namedPath?, named.1, named.2]

def bodyWith (text : String) : String :=
  "\x7b\"data\": " ++ text ++ "\x7d"

/-- The reply with the given data; data without a text are an error of the server. -/
def dataReply (data : Value) : Reply :=
  match Json.write data with
  | .ok text => { status := 200, body := bodyWith text }
  | .error _ => { status := 500, body := "" }

def isAt (rawPath root : List Char) (entry : Value) : Bool :=
  (namedPath? entry).any fun path => rawPath = root ++ path

/-- The reply of a server with the given entries to a request for a path. -/
def replyAt (root : List Char) (entries : List Value) (rawPath : List Char) : Reply :=
  if rawPath = root then dataReply (.list entries)
  else
    match entries.find? (isAt rawPath root) with
    | some entry => dataReply entry
    | none => { status := 404, body := "" }

/-- The server that tells the fields of the given entries. -/
def serving (root : List Char) (entries : List Value) : Transport σ := fun request =>
  return replyAt root entries request.rawPath.toList

theorem isAt_iff {root : List Char} {entry : Value} :
    isAt (root ++ Text.pathOf [collection.toList, field.toList]) root entry
      ↔ IsNamed collection field entry := by
  rw [← namedPath?_eq_some_iff, isAt]
  cases namedPath? entry with
  | none => simp
  | some path => simp [eq_comm]

theorem decodeBytes?_encodeUtf8 (rest : List Char) :
    Json.decodeBytes? (Text.encodeUtf8 ('\x7b' :: '"' :: rest)) = some ('\x7b' :: '"' :: rest) := by
  rw [← Text.decodeUtf8_encodeUtf8]
  have bytes : Text.encodeUtf8 ('\x7b' :: '"' :: rest) = 0x7B :: 0x22 :: Text.encodeUtf8 rest := rfl
  rw [bytes]
  rcases Text.encodeUtf8 rest with _ | ⟨a, _ | ⟨b, bytes⟩⟩
  · rfl
  · rfl
  · rfl

theorem toList_bodyWith (text : String) :
    (bodyWith text).toList
      = '\x7b' :: Json.separator.intercalate [Json.memberText "data" text.toList] ++ ['\x7d'] := by
  have start : "\x7b\"data\": ".toList = '\x7b' :: ((Json.quote "data").toList ++ [':', ' ']) := by
    decide
  unfold bodyWith
  rw [String.toList_append, String.toList_append, start, List.intercalate_singleton]
  simp [Json.memberText]

theorem dataOf_bodyWith {text : String} {data : Value} (h : Json.ReadsAs text.toList data)
    (path : String) : Client.dataOf path (bodyWith text) = .ok data := by
  have decoded : Json.decodeBytes? (Text.encodeUtf8 (bodyWith text).toList)
      = some (bodyWith text).toList := by
    rw [toList_bodyWith]
    exact decodeBytes?_encodeUtf8 _
  have reads : Json.ReadsAs (bodyWith text).toList (.mapping [(.text "data", data)]) := by
    rw [toList_bodyWith]
    exact @Json.readsAs_mapping _ [("data", data)] (.cons ⟨_, rfl, h⟩ .nil) (by simp)
  unfold Client.dataOf readJson
  rw [decoded]
  simp only
  rw [String.ofList_toList, Json.read_of_readsAs reads]
  rfl

theorem holds_dataReply {data : Value} (exact : IsExact data) (path : String) :
    Rest.Holds path data (dataReply data) := by
  obtain ⟨text, written, reads⟩ := Json.isWritten_of_isExact exact
  unfold dataReply
  rw [written]
  exact .inl (dataOf_bodyWith reads path)

theorem isAnswer_replyAt (root : List Char) {entries : List Value}
    (exact : ∀ entry ∈ entries, IsExact entry)
    (distinct : ∀ first ∈ entries, ∀ second ∈ entries,
      IsNamed collection field first → IsNamed collection field second → first = second) :
    Rest.IsAnswer entries collection field
      (replyAt root entries (root ++ Text.pathOf [collection.toList, field.toList])) := by
  have below : root ++ Text.pathOf [collection.toList, field.toList] ≠ root := by
    simp [Text.pathOf_cons]
  rw [replyAt, if_neg below]
  cases found : entries.find? (isAt (root ++ Text.pathOf [collection.toList, field.toList]) root)
    with
  | some entry =>
    have member := List.mem_of_find?_eq_some found
    have named := isAt_iff.mp (List.find?_some found)
    constructor
    · intro other hother isNamed
      rw [distinct other hother entry member isNamed named]
      exact holds_dataReply (exact entry member) _
    · intro unknown
      exact absurd named (unknown entry member)
  | none =>
    constructor
    · intro entry member named
      exact absurd (isAt_iff.mpr named) (List.find?_eq_none.mp found entry member)
    · exact fun _ => .inr rfl

theorem servesFields_serving (root : List Char) {entries : List Value}
    (exact : ∀ entry ∈ entries, IsExact entry)
    (distinct : ∀ collection field, ∀ first ∈ entries, ∀ second ∈ entries,
      IsNamed collection field first → IsNamed collection field second → first = second) :
    ServesFields (serving root entries : Transport σ) root entries := by
  have replied {rawPath : List Char} {request : Request}
      (made : request.rawPath = String.ofList rawPath) (s : Session σ) :
      Step.Yields (serving root entries request) s (replyAt root entries rawPath) s := by
    rw [serving, made, String.toList_ofList]
    rfl
  constructor
  · intro request made s
    refine ⟨_, s, replied made s, ?_⟩
    rw [replyAt, if_pos rfl]
    exact holds_dataReply (.list exact) _
  · intro collection field request made s
    exact ⟨_, s, replied made s, isAnswer_replyAt root exact (distinct collection field)⟩

/-! ### A server with one field -/

/-- An entry of a field named `status`, with one choice. -/
def statusEntry (collection : String) : Value :=
  .mapping [(.text "collection", .text collection), (.text "field", .text "status"),
    (.text "meta", .mapping [(.text "options", .mapping [(.text "choices", .list [.text "new"])])])]

theorem isExact_statusEntry (collection : String) : IsExact (statusEntry collection) := by
  have choices : IsExact (.list [.text "new"]) :=
    .list (List.forall_mem_singleton.mpr (.text "new"))
  have options : IsExact (.mapping [(.text "choices", .list [.text "new"])]) :=
    @IsExact.mapping [("choices", _)] (by simp) (List.forall_mem_singleton.mpr choices)
  have info : IsExact
      (.mapping [(.text "options", .mapping [(.text "choices", .list [.text "new"])])]) :=
    @IsExact.mapping [("options", _)] (by simp) (List.forall_mem_singleton.mpr options)
  apply @IsExact.mapping [("collection", .text collection), ("field", .text "status"), ("meta", _)]
    (by simp)
  rintro member (_ | ⟨_, _ | ⟨_, _ | ⟨_, ⟨⟩⟩⟩⟩)
  · exact .text collection
  · exact .text "status"
  · exact info

def cmsAddress : Address where
  scheme := "https".toList
  host := "cms.example.com".toList

/-- A client of a server without a path that tells one field. -/
def statusClient (collection : String) : Client σ where
  baseUrl := "https://cms.example.com"
  transport := serving "/fields".toList [statusEntry collection]

theorem address_statusClient (collection : String) :
    (statusClient collection : Client σ).address = .ok cmsAddress := by
  have trimmed : String.ofList
      ("https://cms.example.com".toList.reverse.dropWhile (· = '/')).reverse
        = "https://cms.example.com" := by
    decide +kernel
  have server : Address.server? "https://cms.example.com" = some cmsAddress := by
    decide +kernel
  rw [Client.address, statusClient, trimmed, server]

theorem target_statusClient (collection : String) :
    (statusClient collection : Client σ).target "/fields"
      = .ok ({ cmsAddress with path := "/fields".toList }, none) := by
  have resolved : cmsAddress.resolve? "/fields"
      = some { cmsAddress with path := "/fields".toList } := by
    decide +kernel
  rw [Client.target, address_statusClient]
  simp only [bind, Except.bind, resolved]
  rfl

theorem servesFields_statusClient (collection : String) :
    ∀ address authorization,
      (statusClient collection : Client σ).target "/fields" = .ok (address, authorization) →
        ServesFields (statusClient collection : Client σ).transport address.rawPath
          [statusEntry collection] := by
  intro address authorization target
  rw [target_statusClient] at target
  cases target
  apply servesFields_serving
  · exact List.forall_mem_singleton.mpr (isExact_statusEntry collection)
  · intro _ _ first hfirst second hsecond _ _
    rw [List.mem_singleton.mp hfirst, List.mem_singleton.mp hsecond]

def statusDefinition (collection : String) : FieldDefinition where
  collection
  field := "status"
  choices := [⟨.text "new", some "new"⟩]

/-- A prefetch from the server with one field is told its choices, whatever the name is. -/
theorem exists_yields_prefetch_statusClient (collection : String) (inner : σ)
    (log : List Log.Record) :
    ∃ t, Step.Yields (ofServer (statusClient collection)).prefetch ⟨{ inner }, log⟩ true t
      ∧ (((ofServer (statusClient collection)).cachedLookup collection "status").run.run t).1
        = .ok (some (statusDefinition collection)) := by
  obtain ⟨reply, given, run⟩ := (servesFields_statusClient collection _ _
    (target_statusClient collection)).list.fst_run_get (target_statusClient collection)
      (⟨inner, log⟩ : Session σ)
  have all : ((restAll (statusClient collection)).run.run (⟨inner, log⟩ : Session σ)).1
      = .ok [statusDefinition collection] := by
    have entry := Json.isData_of_isExact (isExact_statusEntry collection)
    have readable : IsData IsReadNumber (.list [statusEntry collection]) :=
      .list (List.forall_mem_singleton.mpr entry)
    rw [fst_run_restAll, run, given.replyData_eq_ok readable]
    rfl
  obtain ⟨t, ending, found⟩ := exists_yields_prefetch_of_all
    (ofServer (statusClient collection)) all
  refine ⟨t, ending, (found collection "status").trans ?_⟩
  simp [statusDefinition]

theorem target_of_long {collection : String}
    (long : Address.maxLength ≤ collection.toList.length) :
    (statusClient collection : Client σ).target (fieldPath collection "status")
      = .error .invalidUrl := by
  have tooLong : Address.maxLength < (fieldPath collection "status").toList.length := by
    have encoded := Text.length_le_length_percentEncode collection.toList
    rw [toList_fieldPath, Text.pathOf_cons]
    simp only [List.length_append, List.length_cons]
    omega
  rw [Client.target, address_statusClient]
  simp only [bind, Except.bind, Address.resolve?_eq_none_of_long tooLong]
  rfl

end ChoiceSource

end Typescribe
