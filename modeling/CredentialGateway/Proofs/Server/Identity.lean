/-
The identity of a token on its way to a backend.

Behind the check of a token its identity is written into header fields, as far as the
caller gave none.  From there on these fields are fields like any others, and the
references in them are replaced on the way out.  So a backend is told what the token
says unless that stands for something in the store: a caller whose id is the name of an
entry is announced by the value of the entry.

Each of the three fields has a name of its own, so writing one of them leaves the others
alone, and what the last of the writes leaves of a field is what the one write to it
left.
-/
import Mathlib
import CredentialGateway.Proofs.Server.Exchange
import CredentialGateway.Proofs.Server.Headers
import CredentialGateway.Proofs.Substitution.Header

namespace CredentialGateway.Server

open Http

/-! ### Writing the identity -/

/-- The identity of a token: the header fields that tell it, and their texts. -/
def identity (c : Token.Claims) : List (String × String) :=
  ("x-user-id", c.subject) :: ("magic-user-id", c.assertedId.getD c.subject) ::
    (c.organization.map fun code => ("magic-organization-code", code)).toList

theorem publishIdentity_eq_foldl (h : Headers) (c : Token.Claims) :
    publishIdentity h c = (identity c).foldl (fun h f => setIfAbsent h f.1 f.2) h := by
  unfold publishIdentity identity
  cases c.organization with
  | none => rfl
  | some code => rfl

/-- The names of the header fields that tell an identity. -/
def identityNames : List String := ["x-user-id", "magic-user-id", "magic-organization-code"]

theorem names_identity_sublist (c : Token.Claims) :
    ((identity c).map Prod.fst).Sublist identityNames := by
  unfold identity identityNames
  cases c.organization with
  | none => simp
  | some code => simp

theorem nodup_identity (c : Token.Claims) : ((identity c).map Prod.fst).Nodup :=
  (names_identity_sublist c).nodup (by decide)

theorem name_of_mem_identity {c : Token.Claims} {f : String × String} (h : f ∈ identity c) :
    f.1 ∈ identityNames :=
  (names_identity_sublist c).subset (List.mem_map_of_mem h)

theorem values_setIfAbsent_of_ne (h : Headers) {name other : String} (text : String)
    (hne : other ≠ name) : (setIfAbsent h name text).values other = h.values other := by
  unfold setIfAbsent
  split
  · rfl
  · split
    · rw [Headers.values_put, if_neg hne]
    · rfl

/-- A field without a value that is not empty gets the new one. -/
theorem values_setIfAbsent {h : Headers} {name text : String} {value : List UInt8}
    (hunsent : ∀ v ∈ h.values name, v = []) (hvalue : value? text = some value) :
    (setIfAbsent h name text).values name = [value] := by
  unfold setIfAbsent
  split
  · rename_i b bs hfirst
    rw [Headers.first?_eq_head?] at hfirst
    exact absurd (hunsent _ (List.mem_of_mem_head? hfirst)) (List.cons_ne_nil b bs)
  · rw [hvalue]
    simp only [Headers.values_put, if_true]

theorem values_foldl_of_not_mem {fields : List (String × String)} {name : String}
    (hname : name ∉ fields.map Prod.fst) (h : Headers) :
    (fields.foldl (fun h f => setIfAbsent h f.1 f.2) h).values name = h.values name := by
  induction fields generalizing h with
  | nil => rfl
  | cons f rest ih =>
      rw [List.map_cons, List.mem_cons, not_or] at hname
      rw [List.foldl_cons, ih hname.2, values_setIfAbsent_of_ne h f.2 hname.1]

/-- Of fields with different names each gets the text that is meant for it. -/
theorem values_foldl_setIfAbsent {fields : List (String × String)} {name text : String}
    {value : List UInt8} (hnodup : (fields.map Prod.fst).Nodup) (hmem : (name, text) ∈ fields)
    (hvalue : value? text = some value) {h : Headers} (hunsent : ∀ v ∈ h.values name, v = []) :
    (fields.foldl (fun h f => setIfAbsent h f.1 f.2) h).values name = [value] := by
  induction fields generalizing h with
  | nil => cases hmem
  | cons f rest ih =>
      rw [List.map_cons, List.nodup_cons] at hnodup
      rw [List.foldl_cons]
      rcases List.mem_cons.mp hmem with rfl | hrest
      · rw [values_foldl_of_not_mem hnodup.1, values_setIfAbsent hunsent hvalue]
      · have hne : name ≠ f.1 := by
          rintro rfl
          exact hnodup.1 (List.mem_map.mpr ⟨_, hrest, rfl⟩)
        refine ih hnodup.2 hrest ?_
        rw [values_setIfAbsent_of_ne h f.2 hne]
        exact hunsent

/-! ### What goes out -/

variable {s : Surroundings} {g : Gateway} {r : Request} {out : Outgoing}

theorem grant_of_verify {mac : Token.Mac} {a : Token.Authority} {now : UInt64} {h : Headers}
    {text : String} {source : Source} {c : Token.Claims}
    (hpresented : presented? h = some (text, source)) (hverified : a.verify mac now text = .ok c) :
    grant mac a now h = .ok ⟨c, source⟩ := by
  simp only [grant, hpresented, hverified]

/-- What goes out for a request that no endpoint answers is what is prepared for it with the
identity of its token. -/
theorem sent_eq_some_iff {granted : Grant}
    (hgrant : grant s.mac g.authority s.occasion.now r.headers = .ok granted)
    (hnone : endpointOf r = none) :
    (handle s g r).sent = some out ↔
      prepared g.store.get (some granted.source)
        { r with headers := publishIdentity r.headers granted.claims } = .ok out := by
  have hpath : ¬ publicPaths.contains r.uri.pathText = true := by
    intro hpublic
    rcases mem_publicPaths.mp hpublic with hauth | hstatus
    · rw [endpointOf_auth hauth] at hnone
      cases hnone
    · rw [endpointOf_status hstatus] at hnone
      cases hnone
  have hroute : endpointOf { r with headers := publishIdentity r.headers granted.claims } = none :=
    hnone
  rw [handle, if_neg hpath, answerGuarded, hgrant]
  simp only [answerGranted, route_of_no_endpoint hroute]
  cases prepared g.store.get (some granted.source)
      { r with headers := publishIdentity r.headers granted.claims } with
  | error failure => simp
  | ok sent => simp

/-- **What a client makes of a request**, if its URL can be read and is one to send requests to. -/
theorem prepare?_eq_some_iff {o : Outgoing} : o.prepare? = some out ↔
    ∃ u, Url.parse? o.url = some u ∧ Outgoing.isSendable u = true ∧
      { o with
        url := String.ofList u.renderRequest
        headers := Outgoing.orElse
          (Outgoing.orElse o.headers "authorization" (Outgoing.basicValue? u))
          "accept" (some (Utf8.encodeString "*/*")) } = out := by
  unfold Outgoing.prepare?
  rw [Option.bind_eq_bind, Option.bind_eq_some_iff]
  refine exists_congr fun u => and_congr_right fun _ => ?_
  by_cases hsendable : Outgoing.isSendable u = true
  · rw [if_pos hsendable, Option.some_inj, and_iff_right hsendable]
  · rw [if_neg hsendable]
    exact iff_of_false (Option.some_ne_none _).symm fun h => hsendable h.1

theorem isSome_prepare? (o : Outgoing) :
    o.prepare?.isSome = (Url.parse? o.url).any Outgoing.isSendable := by
  rw [Bool.eq_iff_iff, Option.isSome_iff_exists, Option.any_eq_true]
  constructor
  · rintro ⟨out, hout⟩
    obtain ⟨u, hurl, hsendable, -⟩ := prepare?_eq_some_iff.mp hout
    exact ⟨u, hurl, hsendable⟩
  · rintro ⟨u, hurl, hsendable⟩
    exact ⟨_, prepare?_eq_some_iff.mpr ⟨u, hurl, hsendable, rfl⟩⟩

/-- Whether a client can read the URL for a query to a target, and sends requests to it. -/
def isReachable (get : Lookup) (t : Target) (query : Option String) : Bool :=
  (Url.parse? (t.url (query.map (Substitution.query get)))).any Outgoing.isSendable

/-- **When a request goes out**: if its body is whole, and a client can send it to its target. -/
theorem exists_prepared_iff {get : Lookup} {source : Option Source} :
    (∃ out, prepared get source r = .ok out) ↔ r.body.fault = none ∧
      ∃ t, targetOf get r = .ok t ∧ isReachable get t r.uri.queryText = true := by
  have hsendable : ∀ t, (∃ out, (outgoing get source t r r.body.octets).prepare? = some out) ↔
      isReachable get t r.uri.queryText = true := by
    intro t
    rw [← Option.isSome_iff_exists, isSome_prepare?]
    rfl
  simp only [prepared_eq_ok_iff, ← hsendable]
  constructor
  · rintro ⟨out, hbody, t, htarget, hout⟩
    exact ⟨hbody, t, htarget, out, hout⟩
  · rintro ⟨hbody, t, htarget, out, hout⟩
    exact ⟨out, hbody, t, htarget, hout⟩

/-- No request goes to a host that is still a reference. -/
example : isReachable (fun _ => none) ⟨"http://${HOST}", none, "v1/chat", .default⟩ none = false := by
  decide +kernel

theorem values_orElse (h : Headers) {name other : String} (value : Option (List UInt8))
    (hne : other ≠ name) : (Outgoing.orElse h name value).values other = h.values other := by
  unfold Outgoing.orElse
  split
  · split
    · rfl
    · rw [Headers.values_append]
      simp [Headers.values, Ne.symm hne]
  · rfl

/-- A client adds fields of two names only. -/
theorem values_of_prepare? {o : Outgoing} (h : o.prepare? = some out) {name : String}
    (hauth : name ≠ "authorization") (haccept : name ≠ "accept") :
    out.headers.values name = o.headers.values name := by
  obtain ⟨u, -, -, rfl⟩ := prepare?_eq_some_iff.mp h
  rw [values_orElse _ _ haccept, values_orElse _ _ hauth]

/-- A header field that is neither withheld nor added goes out with its values replaced. -/
theorem values_of_sent {granted : Grant}
    (hgrant : grant s.mac g.authority s.occasion.now r.headers = .ok granted)
    (hsent : (handle s g r).sent = some out) {name : String} (hauth : name ≠ "authorization")
    (haccept : name ≠ "accept") (hname : name ∉ withheldNames) :
    out.headers.values name =
      ((publishIdentity r.headers granted.claims).values name).map
        (forwardedValue g.store.get name) := by
  have hprepared := (sent_eq_some_iff hgrant (handle_sent hsent).1).mp hsent
  obtain ⟨-, t, -, hprepare⟩ := prepared_eq_ok_iff.mp hprepared
  have hkept : ¬ staysBehind (some granted.source) name = true := by
    rw [staysBehind_iff]
    simp [hname, hauth]
  rw [values_of_prepare? hprepare hauth haccept, outgoing, outgoingHeaders, values_addKey,
    if_neg (fun h => hauth h.1), values_substituteHeaders, if_neg hkept]

/-! ### What becomes of the identity -/

/-- What a text stands for in a header field other than that for authorization. -/
def meaning? (get : Lookup) (text : String) : Option String :=
  (get text).or (Substitution.interpolate? get text)

theorem header?_eq_meaning? (get : Lookup) {name : String} (text : String)
    (hname : Text.sameIgnoringCase name.toList "authorization".toList = false) :
    Substitution.header? get name text = meaning? get text :=
  Substitution.header?_of_no_bearer (Substitution.bearerValue?_eq_none (.inl hname))

/-- **When a text arrives as it is**: if it stands for nothing else that could be sent. -/
theorem forwardedValue_eq_self_iff {get : Lookup} {name text : String}
    (hname : Text.sameIgnoringCase name.toList "authorization".toList = false)
    (hverbatim : name ∉ ["magic-task-id", "magic-topic-id", "magic-chat-topic-id",
      "magic-language"]) :
    forwardedValue get name (Utf8.encodeString text) = Utf8.encodeString text ↔
      ∀ result, meaning? get text = some result →
        (Utf8.encodeString text).all isTextOctet = true →
        isValue (Utf8.encodeString result) = true → result = text := by
  unfold forwardedValue
  rw [if_neg hverbatim]
  simp only [← all_isTextOctet_iff, ← isValue_iff]
  by_cases htext : (Utf8.encodeString text).all isTextOctet = true
  · rw [asText_encodeString htext, substitutedHeader, header?_eq_meaning? get text hname]
    cases meaning? get text with
    | none => simp
    | some result =>
        simp only [Option.getD_some, htext, true_and, Option.some.injEq, forall_const]
        constructor
        · rintro h _ rfl hlegal
          rw [if_pos hlegal] at h
          exact String.toList_inj.mp (Utf8.encode_injective h)
        · intro h
          split
          · rename_i hlegal
            rw [h result rfl hlegal]
          · rfl
  · simp [htext]

theorem values_identity_of_sent {granted : Grant}
    (hgrant : grant s.mac g.authority s.occasion.now r.headers = .ok granted)
    (hsent : (handle s g r).sent = some out) {name claim : String}
    (hclaim : (name, claim) ∈ identity granted.claims)
    (hunsent : ∀ v ∈ r.headers.values name, v = [])
    (hlegal : isValue (Utf8.encodeString claim) = true) :
    out.headers.values name = [forwardedValue g.store.get name (Utf8.encodeString claim)] := by
  have hnames : ∀ n ∈ identityNames, n ≠ "authorization" ∧ n ≠ "accept" ∧ n ∉ withheldNames := by
    decide
  obtain ⟨hauth, haccept, hsendable⟩ := hnames name (name_of_mem_identity hclaim)
  have hvalue : value? claim = some (Utf8.encodeString claim) := by
    rw [value?, if_pos hlegal]
  have hpublished : (publishIdentity r.headers granted.claims).values name =
      [Utf8.encodeString claim] := by
    rw [publishIdentity_eq_foldl]
    exact values_foldl_setIfAbsent (nodup_identity granted.claims) hclaim hvalue hunsent
  rw [values_of_sent hgrant hsent hauth haccept hsendable, hpublished, List.map_singleton]

/-- A token that was issued is presented as some text that verifies as the claims in it. -/
theorem verify_issued {mac : Token.Mac} {a later : Token.Authority} {caller : Caller}
    {o : Token.Occasion} {now : UInt64} {h : Headers}
    (hfirst : h.first? tokenField = some (Utf8.encodeString (a.issue mac caller o).1.token))
    (hkeeps : Token.Authority.Keeps a.secret a.keyId o.now later)
    (hfits : o.now.toNat + 2592000 < 2 ^ 64) (hlo : o.now ≤ now)
    (hhi : now.toNat ≤ o.now.toNat + 2592000) :
    ∃ text, presented? h = some (text, .gateway) ∧
      later.verify mac now text = .ok (a.claimsFor caller o) := by
  rw [Token.Authority.encodeString_issue] at hfirst
  exact ⟨_, presented?_token hfirst (Token.sealed_ne_nil _ _ _ _ _)
    Token.isTokenOctet_of_mem_sealed, hkeeps.verify_issue hfits hlo hhi⟩

/-! ### A gateway with one backend -/

/-- A gateway with a backend for all requests, and with a key that is not for this backend. -/
def backendGateway : Gateway :=
  let store : Store := ⟨[("DEFAULT_API_URL", "http://backend.example"),
    ("OPENAI_API_KEY", "sk-1")], "backend-secret", by decide, by decide, by decide⟩
  ⟨store, .default, none, .ofStore store⟩

/-- The token of a user, from the fiftieth second. -/
def userToken (user : String) : String :=
  (backendGateway.authority.issue Token.hmac ⟨some user, none, none⟩ ⟨50, 7, "n1"⟩).1.token

/-- What that token says. -/
def userClaims (user : String) : Token.Claims :=
  backendGateway.authority.claimsFor ⟨some user, none, none⟩ ⟨50, 7, "n1"⟩

/-- A request of a user who gives no identity but the token. -/
def userRequest (user : String) : Request :=
  ⟨"GET", ⟨none, none, "/v1/models".toList, none⟩,
    [(tokenField, Utf8.encodeString (userToken user))], ⟨[], none⟩⟩

/-- The sixtieth second. -/
def soonAfter : Surroundings := ⟨Token.hmac, ⟨60, 8, "n2"⟩, fun _ => .unreachable⟩

/-- What a user asks for goes out, with any header fields. -/
theorem exists_prepared (user : String) (source : Option Source) (headers : Headers) :
    ∃ out, prepared backendGateway.store.get source
      { userRequest user with headers := headers } = .ok out := by
  let t : Target := ⟨"http://backend.example", none, "v1/models", .default⟩
  have htarget : targetOf backendGateway.store.get { userRequest user with headers := headers } =
      .ok t := by
    have hplain : targetOf backendGateway.store.get
        ⟨"GET", ⟨none, none, "/v1/models".toList, none⟩, [], ⟨[], none⟩⟩ = .ok t := by
      decide +kernel
    exact hplain
  refine exists_prepared_iff.mpr ⟨rfl, t, htarget, ?_⟩
  have hurl : t.url none = "http://backend.example/v1/models" := by decide +kernel
  rw [isReachable, show (userRequest user).uri.queryText = none from rfl, Option.map_none, hurl]
  decide +kernel

/-- A user is let pass as the token says, and the request goes out. -/
theorem exists_sent (user : String) :
    ∃ text out, presented? (userRequest user).headers = some (text, .gateway) ∧
      backendGateway.authority.verify soonAfter.mac soonAfter.occasion.now text =
        .ok (userClaims user) ∧
      (handle soonAfter backendGateway (userRequest user)).sent = some out := by
  have hfirst : (userRequest user).headers.first? tokenField =
      some (Utf8.encodeString (userToken user)) := by
    simp [userRequest, Headers.first?]
  have hkeeps : Token.Authority.Keeps backendGateway.authority.secret
      backendGateway.authority.keyId 50 backendGateway.authority := ⟨rfl, rfl, UInt64.zero_le⟩
  have hlater : (50 : UInt64) ≤ soonAfter.occasion.now := by decide
  obtain ⟨text, hpresented, hverified⟩ :=
    verify_issued hfirst hkeeps (by decide) hlater (by decide)
  have hnone : endpointOf (userRequest user) = none := by
    have hpath : (userRequest user).uri.pathText = "/v1/models" := String.ofList_toList
    rw [endpointOf, hpath]
    decide
  obtain ⟨out, hprepared⟩ := exists_prepared user (some .gateway)
    (publishIdentity (userRequest user).headers (userClaims user))
  have hsent := (sent_eq_some_iff (s := soonAfter) (g := backendGateway)
    (grant_of_verify hpresented hverified) hnone).mpr hprepared
  exact ⟨text, out, hpresented, hverified, hsent⟩

/-- **What a backend is told of the identity.**  Where the caller left a field of it empty, the
field goes out with one value, which is the text of the token as any header value is forwarded;
and it is that text itself if and only if the text stands for nothing else that could be sent:
if it is no readable text, or neither the name of an entry nor one that holds a reference to an
entry, or what it stands for is no legal value, or is the text again. -/
theorem identity_reaches_backend (s : Surroundings) (g : Gateway) (r : Request) (out : Outgoing)
    (text : String) (source : Source) (c : Token.Claims) (name claim : String)
    (hpresented : presented? r.headers = some (text, source))
    (hverified : g.authority.verify s.mac s.occasion.now text = .ok c)
    (hsent : (handle s g r).sent = some out) (hclaim : (name, claim) ∈ identity c)
    (hunsent : ∀ v ∈ r.headers.values name, v = [])
    (hlegal : isValue (Utf8.encodeString claim) = true) :
    out.headers.values name = [forwardedValue g.store.get name (Utf8.encodeString claim)] ∧
      (out.headers.values name = [Utf8.encodeString claim] ↔
        ∀ result, meaning? g.store.get claim = some result →
          (Utf8.encodeString claim).all isTextOctet = true →
          isValue (Utf8.encodeString result) = true → result = claim) := by
  have hgrant := grant_of_verify hpresented hverified
  have hout := values_identity_of_sent hgrant hsent hclaim hunsent hlegal
  have hnames : ∀ n ∈ identityNames,
      Text.sameIgnoringCase n.toList "authorization".toList = false ∧
        n ∉ ["magic-task-id", "magic-topic-id", "magic-chat-topic-id", "magic-language"] := by
    decide
  obtain ⟨hscheme, hverbatim⟩ := hnames name (name_of_mem_identity hclaim)
  refine ⟨hout, ?_⟩
  rw [hout, List.singleton_inj]
  exact forwardedValue_eq_self_iff hscheme hverbatim

/-- A user whose id is an ordinary one is announced by it. -/
theorem ada_reaches_backend :
    ∃ out, (handle soonAfter backendGateway (userRequest "ada")).sent = some out ∧
      out.headers.values "x-user-id" = [Utf8.encodeString "ada"] ∧
      out.headers.values "magic-user-id" = [Utf8.encodeString "ada"] := by
  obtain ⟨text, out, hpresented, hverified, hsent⟩ := exists_sent "ada"
  have hmeaning : meaning? backendGateway.store.get "ada" = none := by decide +kernel
  have htold : ∀ name, (name, "ada") ∈ identity (userClaims "ada") → name ≠ tokenField →
      out.headers.values name = [Utf8.encodeString "ada"] := by
    intro name hclaim hname
    refine (identity_reaches_backend soonAfter backendGateway (userRequest "ada") out text .gateway
      (userClaims "ada") name "ada" hpresented hverified hsent hclaim ?_ (by decide)).2.mpr ?_
    · simp [userRequest, Headers.values, Ne.symm hname]
    · simp [hmeaning]
  exact ⟨out, hsent, htold "x-user-id" (by decide +kernel) (by decide),
    htold "magic-user-id" (by decide +kernel) (by decide)⟩

/-- A user whose id is the name of an entry is announced by the value of the entry, here a key
that is meant for another backend. -/
theorem user_named_as_an_entry_is_announced_by_its_value :
    ∃ text out, presented? (userRequest "OPENAI_API_KEY").headers = some (text, .gateway) ∧
      backendGateway.authority.verify soonAfter.mac soonAfter.occasion.now text =
        .ok (userClaims "OPENAI_API_KEY") ∧
      (handle soonAfter backendGateway (userRequest "OPENAI_API_KEY")).sent = some out ∧
      ("x-user-id", "OPENAI_API_KEY") ∈ identity (userClaims "OPENAI_API_KEY") ∧
      (userRequest "OPENAI_API_KEY").headers.values "x-user-id" = [] ∧
      isValue (Utf8.encodeString "OPENAI_API_KEY") = true ∧
      out.headers.values "x-user-id" = [Utf8.encodeString "sk-1"] ∧
      out.headers.values "x-user-id" ≠ [Utf8.encodeString "OPENAI_API_KEY"] := by
  obtain ⟨text, out, hpresented, hverified, hsent⟩ := exists_sent "OPENAI_API_KEY"
  have hclaim : ("x-user-id", "OPENAI_API_KEY") ∈ identity (userClaims "OPENAI_API_KEY") := by
    decide +kernel
  have hunsent : (userRequest "OPENAI_API_KEY").headers.values "x-user-id" = [] := by
    simp [userRequest, Headers.values, tokenField]
  have htold := values_identity_of_sent (grant_of_verify hpresented hverified) hsent hclaim
    (by simp [hunsent]) (by decide)
  have hvalue : forwardedValue backendGateway.store.get "x-user-id"
      (Utf8.encodeString "OPENAI_API_KEY") = Utf8.encodeString "sk-1" := by decide +kernel
  rw [hvalue] at htold
  exact ⟨text, out, hpresented, hverified, hsent, hclaim, hunsent, by decide, htold, by
    rw [htold]
    decide⟩

end CredentialGateway.Server
