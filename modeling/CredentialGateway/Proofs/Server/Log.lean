/-
What the log tells of a request.

A request is logged when its token has let it pass, and before the identity of the token is
written into its header fields; so the record is a matter of the request as it came and of the
caller whom the token names (`logged_handle`).  Each header field has a line in the record, and
the line begins with the name of the field.  No name has a colon, so the lines of a name can be
told from all others, and there are as many of them as the name has values.

The value of a credential has no part in its line, and names are kept in lower case, however they
are spelled.  So the lines of requests that differ in the values of credentials alone are the
same for each name, and if the names come in the same order the records are equal.
-/
import Mathlib
import CredentialGateway.Proofs.Server.Identity

namespace CredentialGateway

/-- Only a colon is one in lower case. -/
theorem Text.eq_colon_of_lowerAscii {c : Char} (h : lowerAscii c = ':') : c = ':' := by
  unfold lowerAscii at h
  split at h
  · rename_i hupper
    have hlo : 65 ≤ c.toNat := hupper.1
    have hhi : c.toNat ≤ 90 := hupper.2
    have hvalue : (Char.ofNat (c.toNat + 32)).toNat = c.toNat + 32 := by
      rw [Char.toNat_ofNat, if_pos (Or.inl (by omega))]
    rw [h] at hvalue
    have hcolon : ':'.toNat = 58 := rfl
    omega
  · exact h

namespace Http

/-! ### Names in any spelling -/

/-- A name as it is kept: in lower case. -/
def keptName (name : String) : String :=
  String.ofList (name.toList.map Text.lowerAscii)

/-- How header fields are kept that are sent with their names in any spelling. -/
def KeptAs (sent : List (String × List UInt8)) (h : Headers) : Prop :=
  (sent.mapM fun f => field? f.1 f.2) = some h

theorem field?_eq_some_iff {name : String} {value : List UInt8} {f : String × List UInt8} :
    field? name value = some f ↔
      (isToken name = true ∧ isValue value = true) ∧ f = (keptName name, value) := by
  rw [field?, Option.ite_none_right_eq_some, Option.some_inj, Bool.and_eq_true, keptName]
  exact and_congr_right fun _ => eq_comm

/-- **Legal header fields are kept as they are, but for the case of their names.** -/
theorem keptAs_iff {sent : List (String × List UInt8)} {h : Headers} :
    KeptAs sent h ↔ (∀ f ∈ sent, isToken f.1 = true ∧ isValue f.2 = true) ∧
      h = sent.map fun f => (keptName f.1, f.2) := by
  unfold KeptAs
  induction sent generalizing h with
  | nil =>
      constructor
      · intro hkept
        exact ⟨List.forall_mem_nil _, (Option.some.inj hkept).symm⟩
      · rintro ⟨-, rfl⟩
        rfl
  | cons f rest ih =>
      rw [List.mapM_cons, Option.bind_eq_bind, Option.bind_eq_some_iff, List.forall_mem_cons,
        List.map_cons]
      constructor
      · rintro ⟨_, hfirst, hrest⟩
        obtain ⟨hlegal, rfl⟩ := field?_eq_some_iff.mp hfirst
        obtain ⟨kept, hkept, hcons⟩ := Option.bind_eq_some_iff.mp hrest
        obtain ⟨hall, rfl⟩ := ih.mp hkept
        exact ⟨⟨hlegal, hall⟩, (Option.some.inj hcons).symm⟩
      · rintro ⟨⟨hlegal, hall⟩, rfl⟩
        refine ⟨_, field?_eq_some_iff.mpr ⟨hlegal, rfl⟩, ?_⟩
        exact Option.bind_eq_some_iff.mpr ⟨_, ih.mpr ⟨hall, rfl⟩, rfl⟩

/-- A name has no colon. -/
theorem colon_not_mem_keptName {name : String} (h : isToken name = true) :
    ':' ∉ (keptName name).toList := by
  rw [keptName, String.toList_ofList]
  intro hmem
  obtain ⟨c, hc, hlower⟩ := List.mem_map.mp hmem
  rw [isToken, Bool.and_eq_true, List.all_eq_true] at h
  have hcolon : isTokenChar ':' = true := Text.eq_colon_of_lowerAscii hlower ▸ h.2 c hc
  exact absurd hcolon (by decide)

variable {sent : List (String × List UInt8)} {h : Headers}

theorem KeptAs.colon_not_mem (hkept : KeptAs sent h) {f : String × List UInt8} (hf : f ∈ h) :
    ':' ∉ f.1.toList := by
  obtain ⟨hlegal, rfl⟩ := keptAs_iff.mp hkept
  obtain ⟨d, hd, rfl⟩ := List.mem_map.mp hf
  exact colon_not_mem_keptName (hlegal d hd).1

/-- A name has the values that are sent under any of its spellings. -/
theorem KeptAs.values (hkept : KeptAs sent h) (name : String) :
    h.values name = (sent.filter fun f => keptName f.1 = name).map Prod.snd := by
  obtain ⟨-, rfl⟩ := keptAs_iff.mp hkept
  rw [Headers.values, List.filter_map, List.map_map]
  rfl

end Http

namespace Server

open Http

/-! ### The lines of a record -/

/-- Whether a line is one for a name. -/
def isLineOf (name line : String) : Bool :=
  (name ++ ": ").toList.isPrefixOf line.toList

/-- The lines of a record for a name. -/
def LogRecord.linesOf (a : LogRecord) (name : String) : List String :=
  a.headers.filter (isLineOf name)

theorem exists_logLine_eq (f : String × List UInt8) :
    ∃ shown, logLine f = f.1 ++ ": " ++ shown :=
  ⟨_, rfl⟩

/-- A line is one for the name of its field and for no other. -/
theorem isLineOf_logLine {name : String} {f : String × List UInt8} (hname : ':' ∉ name.toList)
    (hf : ':' ∉ f.1.toList) : isLineOf name (logLine f) = decide (f.1 = name) := by
  obtain ⟨shown, hline⟩ := exists_logLine_eq f
  have hmark : (": ").toList = [':', ' '] := rfl
  rw [Bool.eq_iff_iff, isLineOf, List.isPrefixOf_iff_prefix, decide_eq_true_eq, hline]
  simp only [String.toList_append, hmark, List.append_assoc, List.cons_append, List.nil_append]
  constructor
  · rintro ⟨rest, hrest⟩
    -- Both names are what stands before the first colon of the line.
    rw [List.append_assoc] at hrest
    have hcut := Text.splitFirst?_eq_some_iff.mpr ⟨hrest.symm, hname⟩
    rw [Text.splitFirst?_eq_some_iff.mpr ⟨rfl, hf⟩, Option.some_inj, Prod.mk.injEq] at hcut
    exact String.toList_inj.mp hcut.1
  · rintro rfl
    exact ⟨shown.toList, by simp⟩

/-- The lines of header fields, with the names they are for. -/
def namedLines (h : Headers) : List (String × String) :=
  h.map fun f => (f.1, logLine f)

theorem map_namedLines (h : Headers) : (namedLines h).map Prod.snd = h.map logLine := by
  rw [namedLines, List.map_map]
  rfl

theorem names_namedLines (h : Headers) : (namedLines h).map Prod.fst = h.map Prod.fst := by
  rw [namedLines, List.map_map]
  rfl

theorem filter_namedLines (h : Headers) (name : String) :
    ((namedLines h).filter fun p => p.1 = name) =
      (h.values name).map fun v => (name, logLine (name, v)) := by
  rw [namedLines, List.filter_map, Headers.values, List.map_map]
  refine List.map_congr_left fun f hf => ?_
  obtain rfl : f.1 = name := of_decide_eq_true (List.mem_filter.mp hf).2
  rfl

/-- **The lines for a name are those of its values.** -/
theorem linesOf_logRecord {r : Request} (hcolon : ∀ f ∈ r.headers, ':' ∉ f.1.toList)
    {name : String} (hname : ':' ∉ name.toList) (c : Token.Claims) :
    (logRecord r c).linesOf name =
      ((namedLines r.headers).filter fun p => p.1 = name).map Prod.snd := by
  rw [LogRecord.linesOf, logRecord, ← map_namedLines, List.filter_map]
  congr 1
  refine List.filter_congr fun p hp => ?_
  obtain ⟨f, hf, rfl⟩ := List.mem_map.mp hp
  exact isLineOf_logLine hname (hcolon f hf)

/-! ### Requests that differ in the values of credentials -/

/-- Header fields that differ in the values of credentials at most: of these there are as many, and
any other name has the same. -/
structure SameButCredentials (h h' : Headers) : Prop where
  credentials : ∀ name ∈ redactedFields, (h'.values name).length = (h.values name).length
  others : ∀ name ∉ redactedFields, h'.values name = h.values name

theorem logLine_of_credential {name : String} (h : name ∈ redactedFields) (value : List UInt8) :
    logLine (name, value) = name ++ ": " ++ "<redacted>" := by
  simp only [logLine, List.contains_iff_mem.mpr h, if_true]

/-- **The lines for a name are the same, whatever the values of credentials are.** -/
theorem SameButCredentials.lines {h h' : Headers} (hsame : SameButCredentials h h')
    (name : String) : ((namedLines h').filter fun p => p.1 = name) =
      (namedLines h).filter fun p => p.1 = name := by
  rw [filter_namedLines, filter_namedLines]
  by_cases hname : name ∈ redactedFields
  · simp only [logLine_of_credential hname, List.map_const', hsame.credentials name hname]
  · rw [hsame.others name hname]

/-- Lists with the same pairs for each name have the same pairs. -/
theorem perm_of_filter_eq {l l' : List (String × String)}
    (h : ∀ name, (l'.filter fun p => p.1 = name) = l.filter fun p => p.1 = name) :
    l'.Perm l := by
  rw [List.perm_iff_count]
  intro p
  have hcount : ∀ m : List (String × String),
      m.count p = (m.filter fun q => q.1 = p.1).count p := by
    intro m
    exact (List.count_filter (by simp)).symm
  rw [hcount, h, ← hcount]

/-- If their names come in the same order, they are equal. -/
theorem eq_of_filter_eq {l l' : List (String × String)}
    (hnames : l'.map Prod.fst = l.map Prod.fst)
    (h : ∀ name, (l'.filter fun p => p.1 = name) = l.filter fun p => p.1 = name) : l' = l := by
  induction l generalizing l' with
  | nil => exact List.map_eq_nil_iff.mp hnames
  | cons p rest ih =>
      cases l' with
      | nil => cases hnames
      | cons p' rest' =>
          obtain ⟨hname, hrest⟩ := List.cons.inj hnames
          have hfirst := h p.1
          simp only [List.filter_cons, hname, decide_true, if_true, List.cons.injEq] at hfirst
          obtain ⟨rfl, -⟩ := hfirst
          rw [ih hrest fun name => ?_]
          have hall := h name
          simp only [List.filter_cons] at hall
          split at hall
          · exact (List.cons.inj hall).2
          · exact hall

/-! ### When a request is logged -/

variable {s : Surroundings} {g : Gateway} {r : Request} {subject : String}

/-- The routes log what they are given. -/
theorem route_logged (source : Option Source) (logged : Option LogRecord) :
    (route s g source logged r).logged = logged := by
  rw [route]
  split
  · rw [atEndpoint]
    split
    · split <;> rfl
    · rfl
  · rfl

theorem not_logged (h : r.uri.pathText ∈ publicPaths ∨ ¬ Admitted s g r) :
    (handle s g r).logged = none := by
  by_cases hpath : publicPaths.contains r.uri.pathText = true
  · rw [handle_of_public hpath]
    exact route_logged none none
  · have hnot := h.resolve_left fun hmem => hpath (List.contains_iff_mem.mpr hmem)
    rcases handle_cases s g r with ⟨-, -, hrefused⟩ | ⟨hadmitted | hpublic, -⟩
    · rw [hrefused]
    · exact absurd hadmitted hnot
    · exact absurd hpublic hpath

/-- A request that passes in debug mode, with a token for a caller. -/
structure Watched (s : Surroundings) (g : Gateway) (r : Request) (subject : String) : Prop where
  debug : g.settings.debug = true
  guarded : r.uri.pathText ∉ publicPaths
  passes : ∃ text source claims, presented? r.headers = some (text, source) ∧
    g.authority.verify s.mac s.occasion.now text = .ok claims ∧ claims.subject = subject

/-- **What is logged of a request**: the request as it came, and the caller. -/
theorem Watched.logged (h : Watched s g r subject) :
    ∃ c, c.subject = subject ∧ (handle s g r).logged = some (logRecord r c) := by
  obtain ⟨text, source, c, hpresented, hverified, hsubject⟩ := h.passes
  have hpath : ¬ publicPaths.contains r.uri.pathText = true := fun hpublic =>
    h.guarded (List.contains_iff_mem.mp hpublic)
  refine ⟨c, hsubject, ?_⟩
  simp only [handle, if_neg hpath, answerGuarded, grant_of_verify hpresented hverified,
    answerGranted, h.debug, if_true, route_logged]

/-! ### Two requests -/

/-- Requests that differ in the values of credentials at most. -/
structure Twins (r r' : Request) : Prop where
  method : r'.method = r.method
  uri : r'.uri = r.uri
  headers : SameButCredentials r.headers r'.headers

/-- Records that say the same: for each name in the same order, and all in all. -/
structure LogRecord.SaysAs (a b : LogRecord) : Prop where
  method : a.method = b.method
  uri : a.uri = b.uri
  subject : a.subject = b.subject
  lines : ∀ name, ':' ∉ name.toList → a.linesOf name = b.linesOf name
  headers : a.headers.Perm b.headers

/-- **The log hides credentials.**  Nothing is logged of a request on a public path or of one that
is refused.  Two requests that pass in debug mode for one caller and differ in the values of
credentials at most have records that say the same, and if their header fields come in one order,
the same record.  For each name it has as many lines as values were sent under the name, in
whatever spelling. -/
theorem log_hides_credentials (s : Surroundings) (g : Gateway) (r : Request) :
    (r.uri.pathText ∈ publicPaths ∨ ¬ Admitted s g r → (handle s g r).logged = none) ∧
    ∀ s' g' r' sent sent' subject, Watched s g r subject → Watched s' g' r' subject →
      KeptAs sent r.headers → KeptAs sent' r'.headers → Twins r r' →
      ∃ record record', (handle s g r).logged = some record ∧
        (handle s' g' r').logged = some record' ∧ record'.SaysAs record ∧
        (r'.headers.map Prod.fst = r.headers.map Prod.fst → record' = record) ∧
        ∀ name, ':' ∉ name.toList →
          (record.linesOf name).length = (sent.filter fun f => keptName f.1 = name).length := by
  refine ⟨not_logged, ?_⟩
  intro s' g' r' sent sent' subject hwatched hwatched' hkept hkept' htwins
  obtain ⟨c, rfl, hlogged⟩ := hwatched.logged
  obtain ⟨c', hsubject, hlogged'⟩ := hwatched'.logged
  have hlines := htwins.headers.lines
  have hcolon : ∀ f ∈ r.headers, ':' ∉ f.1.toList := fun f => hkept.colon_not_mem
  have hcolon' : ∀ f ∈ r'.headers, ':' ∉ f.1.toList := fun f => hkept'.colon_not_mem
  refine ⟨_, _, hlogged, hlogged', ⟨htwins.method, ?_, hsubject, ?_, ?_⟩, ?_, ?_⟩
  · simp only [logRecord, htwins.uri]
  · intro name hname
    rw [linesOf_logRecord hcolon hname, linesOf_logRecord hcolon' hname, hlines]
  · simp only [logRecord, ← map_namedLines]
    exact (perm_of_filter_eq hlines).map Prod.snd
  · intro hnames
    have hsame : namedLines r'.headers = namedLines r.headers :=
      eq_of_filter_eq (by rw [names_namedLines, names_namedLines, hnames]) hlines
    simp only [logRecord, htwins.method, htwins.uri, hsubject, ← map_namedLines, hsame]
  · intro name hname
    rw [linesOf_logRecord hcolon hname, filter_namedLines, List.length_map, List.length_map,
      hkept.values, List.length_map]

/-- A gateway in debug mode. -/
def debugGateway : Gateway :=
  { backendGateway with settings := { backendGateway.settings with debug := true } }

/-- The octets of a token for Ada. -/
def adaToken (o : Token.Occasion) : List UInt8 :=
  Utf8.encodeString (debugGateway.authority.issue Token.hmac ⟨some "ada", none, none⟩ o).1.token

/-- A request for the names that can be referred to. -/
def namesRequest (h : Headers) : Request :=
  ⟨"GET", ⟨none, none, "/env".toList, none⟩, h, ⟨[], none⟩⟩

/-- A token is a legal value. -/
theorem isValue_adaToken (o : Token.Occasion) : isValue (adaToken o) = true := by
  rw [adaToken, Token.Authority.encodeString_issue]
  refine isValue_of_text (List.all_eq_true.mpr fun b hb => ?_)
  exact isTextOctet_of_isTokenOctet (Token.isTokenOctet_of_mem_sealed b hb)

/-- Header fields with a token, a mark and two credentials for a backend. -/
def fieldsWith (names : List String) (token first second : List UInt8) :
    List (String × List UInt8) :=
  names.zip [token, [0x61], first, second]

/-- Their names, as they are kept. -/
def namesKept : List String :=
  ["magic-authorization", "x-trace", "authorization", "authorization"]

theorem keptAs_fieldsWith {names : List String} {token first second : List UInt8}
    (hnames : names.map keptName = namesKept) (hlegal : ∀ name ∈ names, isToken name = true)
    (hvalues : ∀ v ∈ [token, [0x61], first, second], isValue v = true) :
    KeptAs (fieldsWith names token first second) (fieldsWith namesKept token first second) := by
  refine keptAs_iff.mpr ⟨fun f hf => ?_, ?_⟩
  · obtain ⟨hname, hvalue⟩ := List.of_mem_zip hf
    exact ⟨hlegal _ hname, hvalues _ hvalue⟩
  · rw [fieldsWith, ← hnames, List.zip_map_left]
    rfl

theorem twins_fieldsWith (token token' first first' second second' : List UInt8) :
    Twins (namesRequest (fieldsWith namesKept token first second))
      (namesRequest (fieldsWith namesKept token' first' second')) := by
  refine ⟨rfl, rfl, ?_, ?_⟩
  · intro name _
    simp only [namesRequest, fieldsWith, namesKept, List.zip_cons_cons, List.zip_nil_left,
      Headers.values_cons]
    split_ifs <;> rfl
  · intro name hname
    simp only [redactedFields, tokenField, authorizationField, List.mem_cons, not_or] at hname
    simp only [namesRequest, fieldsWith, namesKept, List.zip_cons_cons, List.zip_nil_left,
      Headers.values_cons, if_neg (Ne.symm hname.1), if_neg (Ne.symm hname.2.2.1)]

theorem watched_fieldsWith {o : Token.Occasion} {first second : List UInt8} (ho : o.now ≤ 60) :
    Watched soonAfter debugGateway
      (namesRequest (fieldsWith namesKept (adaToken o) first second)) "ada" := by
  have hfirst : Headers.first? (fieldsWith namesKept (adaToken o) first second) tokenField =
      some (adaToken o) := by
    simp [Headers.first?, fieldsWith, namesKept, tokenField]
  have hkeeps : Token.Authority.Keeps debugGateway.authority.secret
      debugGateway.authority.keyId o.now debugGateway.authority := ⟨rfl, rfl, UInt64.zero_le⟩
  have hnow : o.now.toNat ≤ 60 := ho
  have hlate : soonAfter.occasion.now.toNat ≤ o.now.toNat + 2592000 :=
    Nat.le_add_left_of_le (by decide)
  obtain ⟨text, hpresented, hverified⟩ := verify_issued hfirst hkeeps (by omega) ho hlate
  refine ⟨rfl, ?_, text, _, _, hpresented, hverified, rfl⟩
  exact (by decide : String.ofList "/env".toList ∉ publicPaths)

theorem length_authorization (token first second : List UInt8) :
    (Headers.values (fieldsWith namesKept token first second) "authorization").length = 2 := by
  simp [Headers.values, fieldsWith, namesKept]

/-- One caller with two tokens, spelled differently, and with different credentials for a backend,
one of them no text. -/
theorem credentials_of_ada_are_hidden :
    let sent := fieldsWith ["Magic-Authorization", "X-Trace", "AUTHORIZATION", "authorization"]
      (adaToken ⟨50, 7, "n1"⟩) [0xFF] []
    let sent' := fieldsWith ["magic-authorization", "x-trace", "Authorization", "authorization"]
      (adaToken ⟨55, 8, "n2"⟩) [0x62, 0x63] [0x64]
    ∃ h h' record, KeptAs sent h ∧ KeptAs sent' h' ∧
      (handle soonAfter debugGateway (namesRequest h)).logged = some record ∧
      (handle soonAfter debugGateway (namesRequest h')).logged = some record ∧
      (record.linesOf "authorization").length = 2 := by
  intro sent sent'
  have hkept : KeptAs sent _ := keptAs_fieldsWith (by decide +kernel) (by decide)
    (List.forall_mem_cons.mpr ⟨isValue_adaToken _, by decide⟩)
  have hkept' : KeptAs sent' _ := keptAs_fieldsWith (by decide +kernel) (by decide)
    (List.forall_mem_cons.mpr ⟨isValue_adaToken _, by decide⟩)
  obtain ⟨record, record', hlogged, hlogged', -, hsame, hlines⟩ :=
    (log_hides_credentials soonAfter debugGateway _).2 soonAfter debugGateway _ sent sent' "ada"
      (watched_fieldsWith (by decide)) (watched_fieldsWith (by decide)) hkept hkept'
      (twins_fieldsWith _ _ _ _ _ _)
  obtain rfl := hsame (by simp [namesRequest, fieldsWith, namesKept])
  refine ⟨_, _, record', hkept, hkept', hlogged, hlogged', ?_⟩
  rw [hlines _ (by decide), ← List.length_map (f := Prod.snd), ← hkept.values]
  exact length_authorization _ _ _

end Server

end CredentialGateway
