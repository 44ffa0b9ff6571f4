import Typescribe.Proofs.Rest.Path

/-!
This module contains the addresses of resources below another one: each is the address of the other
one with more segments, whatever the address of the server is.
-/

namespace Typescribe.Rest.Address

open Text

variable {segments : List (List Char)}

/-- A path that ends in the word for the fields of a server. -/
def EndsInFields (path : List Char) : Prop :=
  ∃ front, path = front ++ "fields".toList

/-- The last segment of such a path is no point, so that what follows takes no segment away. -/
theorem exists_normalPath_eq {path : List Char} (ends : EndsInFields path) :
    ∃ normal, normal ≠ [] ∧ ∀ segments, (∀ segment ∈ segments, ¬IsPoint segment) →
      normalPath (path ++ pathOf segments) = normal ++ pathOf segments := by
  obtain ⟨front, rfl⟩ := ends
  obtain ⟨parts, last, split⟩ := exists_splitAt_append '/' front
  have whole := split "fields".toList (by decide)
  have word : ∀ segment ∈ [last ++ "fields".toList], ¬IsPoint segment := by
    intro segment mem point
    rw [List.mem_singleton.mp mem] at point
    have long : ∀ other, last ++ "fields".toList = other → 6 ≤ other.length := by
      rintro _ rfl
      simp
    rcases point with one | two
    · exact absurd (long _ one) (by decide)
    · exact absurd (long _ two) (by decide)
  refine ⟨['/'].intercalate (dropPoints [] parts ++ [last ++ "fields".toList]), ?_, ?_⟩
  · cases dropPoints [] parts with
    | nil => simp
    | cons part kept => simp [intercalate_cons_eq]
  · intro segments points
    have encoded : ∀ segment ∈ segments.map percentEncode, ¬IsPoint segment := by
      intro segment mem
      obtain ⟨name, hname, rfl⟩ := List.mem_map.mp mem
      exact fun point => points name hname (isPoint_of_percentEncode point)
    rw [normalPath, splitAt_append_pathOf, whole, dropPoints_append encoded,
      dropPoints_append word]
    exact intercalate_append_percentEncode (by simp) segments

theorem normalPath_append_pathOf {path : List Char} (ends : EndsInFields path)
    (points : ∀ segment ∈ segments, ¬IsPoint segment) :
    normalPath (path ++ pathOf segments) = normalPath path ++ pathOf segments := by
  obtain ⟨normal, -, same⟩ := exists_normalPath_eq ends
  have alone : normalPath path = normal := by simpa using same [] (by simp)
  rw [same segments points, alone]

theorem normalPath_ne_nil {path : List Char} (ends : EndsInFields path) :
    normalPath path ≠ [] := by
  obtain ⟨normal, full, same⟩ := exists_normalPath_eq ends
  have alone : normalPath path = normal := by simpa using same [] (by simp)
  rw [alone]
  exact full

/-! ### Parts -/

/-- Who is asked at an address: the user, the host and the port. -/
structure Site where
  userInfo : List Char
  host : List Char
  portNumber : Option Int

def site? (scheme authority : List Char) : Option Site := do
  let (userInfo, hostAndPort) := (cutAtLast '@' authority).getD ([], authority)
  let (host, portText) := splitHost hostAndPort
  let host ← normalHost? host
  let portNumber ← readPort? scheme portText
  return { userInfo, host, portNumber }

def Site.hasHost (site : Site) : Bool :=
  !site.host.isEmpty || !site.userInfo.isEmpty || site.portNumber.isSome

/-- The address with a site and with parts that fit it. -/
def Site.address (site : Site) (parts : Parts) : Address where
  scheme := parts.scheme.map Char.toLower
  userInfo := encode userReserved site.userInfo
  host := site.host
  portNumber := site.portNumber
  path := encode pathReserved
    (if !parts.scheme.isEmpty || site.hasHost then normalPath parts.path else parts.path)
  query := parts.query.map (encode queryReserved)
  fragment := parts.fragment.map (encode fragmentReserved)

theorem ofParts?_eq (parts : Parts) :
    ofParts? parts = (site? parts.scheme parts.authority).bind fun site =>
      if parts.areSound && pathFits (!parts.scheme.isEmpty) site.hasHost parts.path then
        some (site.address parts)
      else none := by
  unfold ofParts? site?
  rcases (cutAtLast '@' parts.authority).getD ([], parts.authority) with ⟨userInfo, hostAndPort⟩
  simp only
  rcases splitHost hostAndPort with ⟨host, portText⟩
  simp only
  cases normalHost? host with
  | none => rfl
  | some host =>
    cases readPort? parts.scheme portText with
    | none => rfl
    | some portNumber => rfl

theorem exists_site_of_ofParts? {parts : Parts} {address : Address}
    (h : ofParts? parts = some address) : ∃ site, address = Site.address site parts := by
  rw [ofParts?_eq, Option.bind_eq_some_iff] at h
  obtain ⟨site, -, h⟩ := h
  split at h
  · exact ⟨site, (Option.some.inj h).symm⟩
  · cases h

/-- The parts of the address of a resource below another one: a query takes the segments in. -/
def Parts.below (parts : Parts) (segments : List (List Char)) : Parts :=
  match parts.query with
  | none => { parts with path := parts.path ++ pathOf segments }
  | some query => { parts with query := some (query ++ pathOf segments) }

/-- The address of a resource below another one. -/
def below (address : Address) (segments : List (List Char)) : Address :=
  match address.query with
  | none => { address with path := address.path ++ pathOf segments }
  | some query => { address with query := some (query ++ pathOf segments) }

theorem isControl_of_isUnreserved {c : Char} (h : isUnreserved c) : isControl c = false := by
  obtain ⟨graphic, ascii⟩ := isGraphic_of_isUnreserved h
  simp only [isControl, Bool.or_eq_false_iff, decide_eq_false_iff_not]
  omega

theorem isSound_append_pathOf {cs : List Char}
    (fits : (cs ++ pathOf segments).length ≤ maxLength) :
    isSound (cs ++ pathOf segments) = isSound cs := by
  have plain : (pathOf segments).any isControl = false := by
    rw [List.any_eq_false]
    intro c mem
    rcases isUnreserved_or_of_mem_pathOf mem with free | rfl | rfl
    · rw [isControl_of_isUnreserved free]
      exact Bool.false_ne_true
    · decide
    · decide
  have shorter : cs.length ≤ maxLength := by
    rw [List.length_append] at fits
    omega
  rw [isSound, isSound, List.any_append, plain, Bool.or_false, decide_eq_true fits,
    decide_eq_true shorter]

theorem pathFits_append {path : List Char} (long : 2 ≤ path.length) (hasScheme hasHost : Bool)
    (more : List Char) :
    pathFits hasScheme hasHost (path ++ more) = pathFits hasScheme hasHost path := by
  match path, long with
  | a :: b :: path, _ => simp [pathFits, startsWith, List.isPrefixOf]

@[simp]
theorem scheme_below (parts : Parts) : (parts.below segments).scheme = parts.scheme := by
  unfold Parts.below
  split <;> rfl

@[simp]
theorem authority_below (parts : Parts) : (parts.below segments).authority = parts.authority := by
  unfold Parts.below
  split <;> rfl

theorem pathFits_below {parts : Parts} (ends : parts.query = none → EndsInFields parts.path)
    (hasScheme hasHost : Bool) :
    pathFits hasScheme hasHost (parts.below segments).path
      = pathFits hasScheme hasHost parts.path := by
  unfold Parts.below
  split
  · next none =>
    have long : 2 ≤ parts.path.length := by
      obtain ⟨front, same⟩ := ends none
      simp [same]
    exact pathFits_append long hasScheme hasHost _
  · rfl

theorem address_below {parts : Parts} (points : ∀ segment ∈ segments, ¬IsPoint segment)
    (ends : parts.query = none → EndsInFields parts.path) (site : Site) :
    site.address (parts.below segments) = (site.address parts).below segments := by
  obtain ⟨scheme, authority, path, query, fragment⟩ := parts
  cases query with
  | none =>
    have normal := normalPath_append_pathOf (ends rfl) points
    simp only at normal
    simp only [Parts.below, Site.address, below, Option.map_none, normal,
      ← apply_ite (· ++ pathOf segments), encode_append_pathOf leavesPaths_pathReserved]
  | some query =>
    simp only [Parts.below, Site.address, below, Option.map_some,
      encode_append_pathOf leavesPaths_queryReserved]
    rfl

theorem ofParts?_below {parts : Parts} (points : ∀ segment ∈ segments, ¬IsPoint segment)
    (ends : parts.query = none → EndsInFields parts.path)
    (sound : (parts.below segments).areSound = parts.areSound) :
    ofParts? (parts.below segments) = (ofParts? parts).map (·.below segments) := by
  rw [ofParts?_eq, ofParts?_eq, Option.map_bind, sound, scheme_below, authority_below]
  congr 1
  funext site
  rw [pathFits_below ends, address_below points ends]
  simp only [Function.comp_apply]
  split
  · rfl
  · rfl

/-! ### Resources of a server -/

theorem splitMarked_append {mark : Char} {ds : List Char} (h : mark ∉ ds) (cs : List Char) :
    splitMarked mark (cs ++ ds)
      = match splitMarked mark cs with
        | (before, none) => (before ++ ds, none)
        | (before, some after) => (before, some (after ++ ds)) := by
  unfold splitMarked
  rw [cutAt_append_of_notMem h]
  cases cutAt mark cs with
  | none => rfl
  | some found => rfl

/-- The parts of an address with another path and query. -/
def partsWith (address : Address) (raw : List Char) : Parts where
  scheme := address.scheme
  authority := address.authority
  path := (splitMarked '?' raw).1
  query := (splitMarked '?' raw).2
  fragment := address.fragment

theorem withRawPath_eq (address : Address) (raw : List Char) :
    address.withRawPath raw = ofParts? (address.partsWith raw) := rfl

/-- A path and a query that are not longer than those of an address can be. -/
def IsWithinLimit (raw : List Char) : Prop :=
  (splitMarked '?' raw).1.length ≤ maxLength
    ∧ ((splitMarked '?' raw).2.getD []).length ≤ maxLength

instance (raw : List Char) : Decidable (IsWithinLimit raw) :=
  inferInstanceAs (Decidable (_ ∧ _))

theorem partsWith_append_pathOf (address : Address) (raw : List Char) :
    address.partsWith (raw ++ pathOf segments) = (address.partsWith raw).below segments := by
  have plain := notMem_pathOf (c := '?') (by decide) (by decide) (by decide) segments
  unfold partsWith
  rw [splitMarked_append plain]
  rcases splitMarked '?' raw with ⟨path, _ | query⟩
  · rfl
  · rfl

theorem areSound_partsWith_append_pathOf (address : Address) {raw : List Char}
    (fits : IsWithinLimit (raw ++ pathOf segments)) :
    (address.partsWith (raw ++ pathOf segments)).areSound = (address.partsWith raw).areSound := by
  have plain := notMem_pathOf (c := '?') (by decide) (by decide) (by decide) segments
  unfold IsWithinLimit at fits
  rw [splitMarked_append plain] at fits
  unfold partsWith
  rw [splitMarked_append plain]
  rcases found : splitMarked '?' raw with ⟨path, _ | query⟩
  · rw [found] at fits
    simp only [Parts.areSound, List.all_cons, isSound_append_pathOf fits.1]
  · rw [found] at fits
    simp only [Parts.areSound, List.all_cons, Option.getD_some, isSound_append_pathOf fits.2]

theorem endsInFields_partsWith {raw : List Char} (ends : EndsInFields raw) (address : Address) :
    (address.partsWith raw).query = none → EndsInFields (address.partsWith raw).path := by
  unfold partsWith splitMarked
  cases cutAt '?' raw with
  | none => exact fun _ => ends
  | some found => simp

theorem withRawPath_append_pathOf (address : Address) {raw : List Char} (ends : EndsInFields raw)
    (points : ∀ segment ∈ segments, ¬IsPoint segment)
    (fits : IsWithinLimit (raw ++ pathOf segments)) :
    address.withRawPath (raw ++ pathOf segments)
      = (address.withRawPath raw).map (·.below segments) := by
  have sound := areSound_partsWith_append_pathOf address fits
  rw [partsWith_append_pathOf] at sound
  rw [withRawPath_eq, withRawPath_eq, partsWith_append_pathOf]
  exact ofParts?_below points (endsInFields_partsWith ends address) sound

/-- A path of encoded segments is nothing but a path: no part of it is read as something else. -/
theorem ofText_fields (segments : List (List Char)) :
    Parts.ofText ("/fields".toList ++ pathOf segments)
      = { path := "/fields".toList ++ pathOf segments } := by
  have plain {c : Char} (word : c ∉ "/fields".toList) (reserved : isUnreserved c = false)
      (percent : c ≠ '%') (slash : c ≠ '/') :
      cutAt c ("/fields".toList ++ pathOf segments) = none := by
    rw [cutAt_eq_none_iff, List.mem_append, not_or]
    exact ⟨word, notMem_pathOf reserved percent slash segments⟩
  unfold Parts.ofText splitScheme splitMarked
  rw [plain (by decide) (by decide) (by decide) (by decide)]
  simp only
  have rooted : splitAuthority ("/fields".toList ++ pathOf segments)
      = ([], "/fields".toList ++ pathOf segments) := rfl
  rw [rooted]
  simp only
  rw [plain (by decide) (by decide) (by decide) (by decide)]
  simp only
  rw [plain (by decide) (by decide) (by decide) (by decide)]

theorem ofString?_fields (fits : ("/fields".toList ++ pathOf segments).length ≤ maxLength)
    (points : ∀ segment ∈ segments, ¬IsPoint segment) :
    ofString? (String.ofList ("/fields".toList ++ pathOf segments))
      = some { path := "/fields".toList ++ pathOf segments } := by
  have parts : Parts.ofText ("/fields".toList ++ pathOf segments)
      = ({ path := "/fields".toList } : Parts).below segments := ofText_fields segments
  have sound : isSound ("/fields".toList ++ pathOf segments) := isSound_append_pathOf fits
  have same : (({ path := "/fields".toList } : Parts).below segments).areSound = true := by
    simp only [Parts.below, Parts.areSound, List.all_cons, sound]
    rfl
  have first : ofParts? { path := "/fields".toList } = some { path := "/fields".toList } := by rfl
  rw [ofString?, String.toList_ofList, if_pos sound, parts,
    ofParts?_below points (fun _ => ⟨['/'], rfl⟩) (same.trans rfl), first]
  rfl

theorem resolve?_eq_none_of_long {path : String} (h : maxLength < path.toList.length)
    (server : Address) : server.resolve? path = none := by
  have tooLong : isSound path.toList = false := by
    simp [isSound, Nat.not_le.mpr h]
  rw [resolve?, ofString?, tooLong]
  rfl

theorem resolve?_fields (server : Address)
    (fits : ("/fields".toList ++ pathOf segments).length ≤ maxLength)
    (points : ∀ segment ∈ segments, ¬IsPoint segment) :
    server.resolve? (String.ofList ("/fields".toList ++ pathOf segments))
      = server.withRawPath (server.rawPath ++ "fields".toList ++ pathOf segments) := by
  have behind : (rawPath { path := "/fields".toList ++ pathOf segments }).dropWhile (· = '/')
      = "fields".toList ++ pathOf segments := by
    have raw : rawPath { path := "/fields".toList ++ pathOf segments }
        = '/' :: ("fields".toList ++ pathOf segments) := List.append_nil _
    rw [raw]
    rfl
  rw [resolve?, ofString?_fields fits points]
  change server.withRawPath (server.rawPath ++ _) = _
  rw [behind, List.append_assoc]

theorem resolve?_all (server : Address) :
    server.resolve? "/fields" = server.withRawPath (server.rawPath ++ "fields".toList) := by
  have all : server.resolve? (String.ofList ("/fields".toList ++ pathOf [])) = _ :=
    resolve?_fields server (by decide) (by simp)
  rwa [pathOf_nil, List.append_nil, List.append_nil, String.ofList_toList] at all

/--
The addresses of the fields of a server are below that of all fields, if the texts that they are
made from are not too long.
-/
theorem resolve?_below (server : Address) (points : ∀ segment ∈ segments, ¬IsPoint segment)
    (fits : ("/fields".toList ++ pathOf segments).length ≤ maxLength)
    (fitsBehind : IsWithinLimit (server.rawPath ++ "fields".toList ++ pathOf segments)) :
    server.resolve? (String.ofList ("/fields".toList ++ pathOf segments))
      = (server.resolve? "/fields").map (·.below segments) := by
  rw [resolve?_fields server fits points, resolve?_all,
    withRawPath_append_pathOf server ⟨_, rfl⟩ points fitsBehind]

/-! ### What is asked for at an address -/

/-- The text of an address before its fragment. -/
def front (address : Address) : List Char :=
  (if address.scheme.isEmpty then [] else address.scheme ++ [':'])
    ++ (if address.authority.isEmpty then [] else ['/', '/'] ++ address.authority)
    ++ address.path ++ marked '?' address.query

theorem toList_text (address : Address) :
    address.text.toList = address.front ++ marked '#' address.fragment :=
  String.toList_ofList

theorem front_below (address : Address) :
    (address.below segments).front = address.front ++ pathOf segments := by
  unfold below front
  cases address.query with
  | none => simp [authority, marked]
  | some query => simp [authority, marked]

theorem fragment_below (address : Address) :
    (address.below segments).fragment = address.fragment := by
  unfold below
  cases address.query <;> rfl

def isTyped (cs : List Char) : Bool :=
  match cutAt ':' cs with
  | some (type, _) => !type.isEmpty && !type.contains '/'
  | none => false

theorem isTyped_append {cs : List Char} (h : ':' ∈ cs ∨ '/' ∈ cs) (more : List Char) :
    isTyped (cs ++ more) = isTyped cs := by
  unfold isTyped
  rw [cutAt_append]
  cases cut : cutAt ':' cs with
  | some found => rfl
  | none =>
    have slash := h.resolve_left (cutAt_eq_none_iff.mp cut)
    cases cutAt ':' more with
    | none => rfl
    | some found => simp [slash]

def withoutFragment (cs : List Char) : List Char :=
  ((cutAtLast '#' cs).map (·.1)).getD cs

theorem cutAtLast_append (mark : Char) (cs ds : List Char) :
    cutAtLast mark (cs ++ ds)
      = match cutAtLast mark ds with
        | some (before, after) => some (cs ++ before, after)
        | none => (cutAtLast mark cs).map fun (before, after) => (before, after ++ ds) := by
  unfold cutAtLast
  rw [List.reverse_append, cutAt_append]
  cases cutAt mark ds.reverse with
  | some found => simp
  | none =>
    cases cutAt mark cs.reverse with
    | none => rfl
    | some found => simp

theorem isTyped_withoutFragment_append {cs more : List Char} (h : ':' ∈ cs ∨ '/' ∈ cs)
    (plain : '#' ∉ more) (fragment : Option (List Char)) :
    isTyped (withoutFragment (cs ++ more ++ marked '#' fragment))
      = isTyped (withoutFragment (cs ++ marked '#' fragment)) := by
  cases fragment with
  | none =>
    have missing : cutAtLast '#' more = none := by
      rw [cutAtLast, cutAt_eq_none_iff.mpr (by simpa using plain)]
      rfl
    rw [marked, List.append_nil, List.append_nil, withoutFragment, withoutFragment,
      cutAtLast_append, missing]
    cases cutAtLast '#' cs with
    | none => exact isTyped_append h more
    | some found => rfl
  | some fragment =>
    obtain ⟨⟨before, after⟩, last⟩ : ∃ found, cutAtLast '#' ('#' :: fragment) = some found := by
      apply Option.ne_none_iff_exists'.mp
      rw [cutAtLast, ne_eq, Option.map_eq_none_iff, cutAt_eq_none_iff]
      simp
    rw [marked, withoutFragment, withoutFragment,
      cutAtLast_append '#' (cs ++ more) ('#' :: fragment),
      cutAtLast_append '#' cs ('#' :: fragment), last]
    simp only [Option.map_some, Option.getD_some]
    rw [List.append_assoc, isTyped_append h, isTyped_append h]

theorem hasType_below {address : Address} (h : ':' ∈ address.front ∨ '/' ∈ address.front) :
    (address.below segments).hasType = address.hasType := by
  have bare (other : Address) :
      other.hasType = isTyped (withoutFragment (other.front ++ marked '#' other.fragment)) := by
    rw [← toList_text]
    rfl
  have plain := notMem_pathOf (c := '#') (by decide) (by decide) (by decide) segments
  rw [bare, bare, front_below, fragment_below, isTyped_withoutFragment_append h plain]

theorem rawPath_below {address : Address} (h : address.query = none → address.path ≠ []) :
    (address.below segments).rawPath = address.rawPath ++ pathOf segments := by
  unfold below rawPath
  cases same : address.query with
  | none =>
    have full : address.path.isEmpty = false := by simpa using h same
    simp [full, marked, h same]
  | some query => simp [marked]

theorem mem_partsWith {c : Char} {raw : List Char} (h : c ∈ raw) (mark : c ≠ '?')
    (address : Address) :
    c ∈ (address.partsWith raw).path
      ∨ ∃ query, (address.partsWith raw).query = some query ∧ c ∈ query := by
  unfold partsWith splitMarked
  cases cut : cutAt '?' raw with
  | none => exact .inl h
  | some found =>
    obtain ⟨rfl, -⟩ := eq_append_of_cutAt cut
    rcases List.mem_append.mp h with before | after
    · exact .inl before
    · exact .inr ⟨_, rfl, (List.mem_cons.mp after).resolve_left mark⟩

theorem of_authority_eq_nil {address : Address} (h : address.authority = []) :
    address.userInfo = [] ∧ address.host = [] ∧ address.portNumber = none := by
  unfold authority at h
  simp only [List.append_eq_nil_iff] at h
  obtain ⟨⟨user, host⟩, port⟩ := h
  refine ⟨?_, ?_, ?_⟩
  · split at user
    · next empty => exact List.isEmpty_iff.mp empty
    · simp at user
  · split at host
    · cases host
    · exact host
  · split at port
    · assumption
    · cases port

theorem hasHost_eq_false {site : Site} {parts : Parts} (h : (site.address parts).authority = []) :
    site.hasHost = false := by
  obtain ⟨user, host, port⟩ := of_authority_eq_nil h
  have host : site.host = [] := host
  have port : site.portNumber = none := port
  have userInfo : site.userInfo = [] := by
    by_contra given
    exact encode_ne_nil given userReserved user
  simp [Site.hasHost, userInfo, host, port]

theorem mem_front {parts : Parts} {address : Address} (h : ofParts? parts = some address)
    (slash : '/' ∈ parts.path ∨ ∃ query, parts.query = some query ∧ '/' ∈ query) :
    ':' ∈ address.front ∨ '/' ∈ address.front := by
  obtain ⟨site, rfl⟩ := exists_site_of_ofParts? h
  by_cases scheme : parts.scheme = []
  · by_cases authority : (site.address parts).authority = []
    · -- Without a scheme and a host the path is left as it is.
      have noHost : site.hasHost = false := hasHost_eq_false authority
      rcases slash with inPath | ⟨query, same, inQuery⟩
      · have kept := slash_mem_encode leavesPaths_pathReserved inPath
        simp [front, Site.address, scheme, noHost, kept]
      · have kept := slash_mem_encode leavesPaths_queryReserved inQuery
        simp [front, Site.address, same, marked, kept]
    · simp [front, authority]
  · simp [front, Site.address, scheme]

theorem normalPath_concat_slash (path : List Char) :
    normalPath (path ++ ['/']) = [] ∨ '/' ∈ normalPath (path ++ ['/']) := by
  have behind : ∀ segment ∈ [([] : List Char)], ¬IsPoint segment := by
    simp [IsPoint]
  have split : splitAt '/' (path ++ ['/']) = splitAt '/' path ++ [[]] :=
    splitAt_append_separator '/' path []
  rw [normalPath, split, dropPoints_append behind]
  cases dropPoints [] (splitAt '/' path) with
  | nil => exact .inl rfl
  | cons part kept =>
    right
    simp [intercalate_cons_eq]

theorem slash_mem_rawPath_address {site : Site} {parts : Parts} {path : List Char}
    (h : parts.path = path ++ ['/']) : '/' ∈ (site.address parts).rawPath := by
  have kept : ∀ isNormal : Bool,
      let path := if isNormal then normalPath parts.path else parts.path
      path = [] ∨ '/' ∈ path := by
    rw [h]
    rintro (_ | _)
    · exact .inr (by simp)
    · exact normalPath_concat_slash path
  unfold rawPath Site.address
  rcases kept (!parts.scheme.isEmpty || site.hasHost) with empty | mem
  · simp only [empty]
    exact List.mem_append_left _ List.mem_cons_self
  · have encoded := slash_mem_encode leavesPaths_pathReserved mem
    simp only
    rw [if_neg (by simpa using List.ne_nil_of_mem encoded)]
    exact List.mem_append_left _ encoded

/-- The path of a server ends in a slash, or is empty, or stands before a query that ends in one. -/
theorem slash_mem_rawPath {s : String} {server : Address} (h : server? s = some server) :
    '/' ∈ server.rawPath := by
  unfold server? at h
  obtain ⟨address, -, h⟩ := Option.bind_eq_some_iff.mp h
  split at h
  · next ends =>
    cases h
    exact List.mem_of_getLast? ends
  · rw [withRawPath_eq] at h
    obtain ⟨site, rfl⟩ := exists_site_of_ofParts? h
    generalize address.rawPath = raw
    have split : splitMarked '?' (raw ++ ['/']) = _ := splitMarked_append (by decide) raw
    rcases parts : splitMarked '?' raw with ⟨path, _ | query⟩
    · rw [parts] at split
      exact slash_mem_rawPath_address (congrArg Prod.fst split)
    · rw [parts] at split
      have kept : '/' ∈ encode queryReserved (query ++ ['/']) :=
        slash_mem_encode leavesPaths_queryReserved (by simp)
      simp [rawPath, Site.address, partsWith, split, marked, kept]

/-- The address of all fields of a server has a path, and is more than a query and a fragment. -/
theorem of_resolve?_fields {s : String} {server address : Address} (h : server? s = some server)
    (resolved : server.resolve? "/fields" = some address) :
    (address.query = none → address.path ≠ []) ∧ (':' ∈ address.front ∨ '/' ∈ address.front) := by
  have ends : EndsInFields (server.rawPath ++ "fields".toList) := ⟨_, rfl⟩
  have slash : '/' ∈ server.rawPath ++ "fields".toList :=
    List.mem_append_left _ (slash_mem_rawPath h)
  rw [resolve?_all, withRawPath_eq] at resolved
  refine ⟨?_, mem_front resolved (mem_partsWith slash (by decide) server)⟩
  obtain ⟨site, rfl⟩ := exists_site_of_ofParts? resolved
  intro absent
  have pathEnds := endsInFields_partsWith ends server (Option.map_eq_none_iff.mp absent)
  apply encode_ne_nil
  split
  · exact normalPath_ne_nil pathEnds
  · obtain ⟨front, same⟩ := pathEnds
    rw [same]
    simp

end Typescribe.Rest.Address
