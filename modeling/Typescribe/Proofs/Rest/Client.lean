import Typescribe.Proofs.Rest.Address
import Typescribe.Proofs.Step
import Typescribe.Rest.Client

/-!
This module contains the requests for the fields of a server and what they give: the request for a
field is that for all fields with more segments in its path.
-/

namespace Typescribe.Rest.Client

open Text Address

variable {σ : Type} {client : Client σ} {segments : List (List Char)}

theorem exists_server?_of_address {server : Address} (h : client.address = .ok server) :
    ∃ s, server? s = some server := by
  unfold Client.address at h
  simp only at h
  split at h
  · next found =>
    cases h
    exact ⟨_, found⟩
  · cases h

@[simp]
theorem checkHost_below (address : Address) :
    (address.below segments).checkHost = address.checkHost := by
  unfold below checkHost
  cases address.query <;> rfl

@[simp]
theorem authorization_below (address : Address) (bearer : Option String) :
    authorization (address.below segments) bearer = authorization address bearer := by
  unfold below authorization
  cases address.query <;> rfl

theorem target_below (client : Client σ) (points : ∀ segment ∈ segments, ¬IsPoint segment)
    (fits : ("/fields".toList ++ pathOf segments).length ≤ maxLength)
    (fitsBehind : ∀ server, client.address = .ok server →
      IsWithinLimit (server.rawPath ++ "fields".toList ++ pathOf segments)) :
    client.target (String.ofList ("/fields".toList ++ pathOf segments))
      = (client.target "/fields").map fun target => (target.1.below segments, target.2) := by
  unfold target
  cases found : client.address with
  | error cause => rfl
  | ok server =>
    cases client.bearer with
    | error cause => rfl
    | ok bearer =>
      have resolved := resolve?_below server points fits (fitsBehind server found)
      simp only [bind, Except.bind, resolved]
      cases server.resolve? "/fields" with
      | none => rfl
      | some address =>
        simp only [Option.map_some, checkHost_below, authorization_below]
        cases address.checkHost with
        | error cause => rfl
        | ok => rfl

theorem of_target {address : Address} {authorization : Option String}
    (h : client.target "/fields" = .ok (address, authorization)) (segments : List (List Char)) :
    (address.below segments).rawPath = address.rawPath ++ pathOf segments
      ∧ (address.below segments).hasType = address.hasType := by
  obtain ⟨server, found, h⟩ := bind_eq_ok.mp h
  obtain ⟨bearer, -, h⟩ := bind_eq_ok.mp h
  cases resolved : server.resolve? "/fields" with
  | none =>
    rw [resolved] at h
    cases h
  | some other =>
    rw [resolved] at h
    obtain ⟨_, -, h⟩ := bind_eq_ok.mp h
    cases h
    obtain ⟨s, isServer⟩ := exists_server?_of_address found
    obtain ⟨path, front⟩ := of_resolve?_fields isServer resolved
    exact ⟨rawPath_below path, hasType_below front⟩

/-! ### Requests -/

variable {path : String} {address : Address} {authorization : Option String}

theorem fst_run_get (h : client.target path = .ok (address, authorization)) {reply : Reply}
    {s t : Session σ} (replied : Step.Yields (client.transport (requestFor address authorization)) s
      reply t) :
    ((client.get path).run.run s).1
      = if address.hasType then (replyData path reply).mapError .foreign
        else .error (.foreign (.badValue address.unknownTypeText)) := by
  unfold get Snapshot.orFail
  rw [h, Except.mapError, Step.run_bind_of_ok (Step.run_ofExcept _)]
  simp only
  rw [Step.run_bind_of_ok replied]
  split
  · rw [Step.run_ofExcept]
  · rfl

theorem run_get_of_target_eq_error {cause : Cause} (h : client.target path = .error cause)
    (s : Session σ) : (client.get path).run.run s = (.error (.foreign cause), s) := by
  unfold get Snapshot.orFail
  rw [h, Except.mapError, Step.run_bind_of_error (Step.run_ofExcept _)]

end Typescribe.Rest.Client
