import AimailBridge.Router.Persistence

/-!
# Registered values and file values

A value reaches the table through the admin API, which takes a bare value for a host and gets its
port beside it, or through the routes file, which reads the port out of the value.  The two agree on
URLs, and on lone hosts with the default port; they agree on no `host:port`.
-/

namespace AimailBridge

open Foundation Text ProfileRoute ProfileRouter

/-- Registering an address through the API and writing it in the file give the same endpoint. -/
def SameMeaning (email value : Text) (port : UInt16) : Prop :=
  ∃ route, routeOfValue email value = some route ∧
    route.targetUrl = (routeOfRequest email value port).targetUrl ∧
      route.host = (routeOfRequest email value port).host ∧
        route.port = (routeOfRequest email value port).port

/-- A host alone: no blanks around it, no bracket, and no number that would be a port. -/
structure LoneHost (value : Text) : Prop where
  /-- There is a host. -/
  nonempty : value ≠ []
  /-- It has no blanks around it. -/
  tight : trim value = value
  /-- It opens no bracket. -/
  unbracketed : ¬ ['['] <+: value
  /-- What stands behind its last colon is not a port. -/
  portless : ∀ host portStr, rsplitOnce ':' value = some (host, portStr) → parseU16 portStr = none
  /-- It is not a port itself. -/
  not_port : parseU16 value = none

/-- There is no `host:port` in it. -/
theorem LoneHost.no_port {value : Text} (lone : LoneHost value) :
    ((rsplitOnce ':' value).bind fun (host, portStr) => (parseU16 portStr).map (host, ·)) =
      none := by
  cases split : rsplitOnce ':' value with
  | none => rfl
  | some parts => simp [lone.portless parts.1 parts.2 split]

theorem parseAddr_loneHost {value : Text} (lone : LoneHost value) :
    parseAddr value = some (value, 8645) := by
  simp only [parseAddr, lone.tight, if_neg lone.nonempty,
    stripPrefix_eq_none.mpr lone.unbracketed, lone.no_port, lone.not_port]

theorem parseU16_localhost : parseU16 (trim "127.0.0.1".toList) = none := by
  decide

/-- The reader of `host:port` gives a text back as the host only if it is a lone host: otherwise it
takes something off the text, or replaces it by the local host. -/
theorem parseAddr_self {value : Text} {port : UInt16}
    (read : parseAddr value = some (value, port)) : LoneHost value ∧ port = 8645 := by
  have longer : (trim value).length ≤ value.length :=
    ((List.rdropWhile_prefix isWhitespace _).length_le).trans
      (List.dropWhile_suffix isWhitespace).length_le
  simp only [parseAddr] at read
  split_ifs at read with empty
  split at read
  · next rest opened =>
      obtain ⟨⟨addr, portStr⟩, split, parsed⟩ := Option.bind_eq_some_iff.mp read
      simp only [Option.map_eq_some_iff, Prod.mk.injEq] at parsed
      obtain ⟨_, _, host_eq, _⟩ := parsed
      rw [stripPrefix_eq_some.mp opened, splitOnce_eq_some_append split, ← host_eq] at longer
      simp at longer
  · next unopened =>
      split at read
      · next found split_at =>
          obtain ⟨⟨host, portStr⟩, split, parsed⟩ := Option.bind_eq_some_iff.mp split_at
          obtain ⟨_, _, rfl⟩ := Option.map_eq_some_iff.mp parsed
          obtain ⟨rfl, _⟩ := Prod.mk.inj (Option.some.inj read)
          have whole : trim host = host ++ ':' :: portStr := (rsplitOnce_eq_some.mp split).1
          have shorter : (trim host).length ≤ host.length := longer
          rw [whole, List.length_append, List.length_cons] at shorter
          omega
      · next no_port =>
          split at read
          · next localPort parsed =>
              obtain ⟨rfl, _⟩ := Prod.mk.inj (Option.some.inj read)
              rw [parseU16_localhost] at parsed
              simp at parsed
          · next not_port =>
              obtain ⟨tight, rfl⟩ := Prod.mk.inj (Option.some.inj read)
              rw [tight] at empty unopened no_port not_port
              refine ⟨⟨empty, tight, stripPrefix_eq_none.mp unopened, ?_, not_port⟩, rfl⟩
              intro host portStr split
              simpa [split] using no_port

/-- A URL means the same on both ways. -/
theorem routeOfValue_url (email : Text) {value : Text} (slash : '/' ∈ value) (port : UInt16) :
    routeOfValue email value = some (routeOfRequest email value port) := by
  have trimmed : IsUrl (trim value) := isUrl_iff.mpr (mem_trim slash (by decide))
  rw [routeOfRequest, if_pos (isUrl_iff.mpr slash)]
  simp only [routeOfValue, if_pos trimmed, fromUrl, trim_trim]

/-- A bare value is read as `host:port` by the file, and taken as a host by the API. -/
theorem routeOfValue_bare (email : Text) {value : Text} (bare : '/' ∉ value) :
    routeOfValue email value =
      (parseAddr value).map fun (host, port) => ProfileRoute.new email host port := by
  have trimmed : ¬ IsUrl (trim value) := by
    rw [isUrl_iff]
    exact fun slash => bare (trim_subset value slash)
  simp only [routeOfValue, if_neg trimmed, parseAddr_trim]

/-- A value means the same on both ways exactly when it is a URL, or a lone host registered with the
port that the file gives it. -/
theorem sameMeaning_iff (email value : Text) (port : UInt16) :
    SameMeaning email value port ↔ '/' ∈ value ∨ (LoneHost value ∧ port = 8645) := by
  by_cases slash : '/' ∈ value
  · refine iff_of_true ?_ (Or.inl slash)
    exact ⟨_, routeOfValue_url email slash port, rfl, rfl, rfl⟩
  · have api : routeOfRequest email value port = ProfileRoute.new email value port := by
      rw [routeOfRequest, if_neg fun url => slash (isUrl_iff.mp url)]
    rw [SameMeaning, routeOfValue_bare email slash, api]
    simp only [slash, false_or]
    constructor
    · rintro ⟨route, read, _, host_eq, port_eq⟩
      obtain ⟨⟨host, filePort⟩, parsed, rfl⟩ := Option.map_eq_some_iff.mp read
      obtain rfl : host = value := host_eq
      obtain rfl : filePort = port := port_eq
      exact parseAddr_self parsed
    · rintro ⟨lone, rfl⟩
      exact ⟨_, by rw [parseAddr_loneHost lone, Option.map_some], rfl, rfl, rfl⟩

/-- The documented `host:port` never means the same: the API takes all of it for the host. -/
theorem hostPort_registered_otherwise :
    ¬ SameMeaning "bot@x.org".toList "10.0.0.7:8645".toList 8645 ∧
      (routeOfRequest "bot@x.org".toList "10.0.0.7:8645".toList 8645).targetUrl =
        "http://10.0.0.7:8645:8645/webhooks/amail-inbound".toList := by
  refine ⟨?_, by decide⟩
  rintro ⟨route, read, target, _⟩
  obtain rfl : ProfileRoute.new "bot@x.org".toList "10.0.0.7".toList 8645 = route :=
    Option.some.inj read
  exact absurd target (by decide)

end AimailBridge
