/-
Calls of one authority at the same time.

An interleaving of calls is a list that says whose turn it is.  A call that makes an
access makes it at its first turn, and later turns are nothing to it; so every order of
the accesses is the order of some list of turns.  At its first turn a call does to the
authority, and is answered, what it would alone.

The tallies follow from one turn by induction: the counter is the number of tokens, their
versions are the numbers up to it, and the cutoff is the greatest time revoked.
-/
import Mathlib
import CredentialGateway.Proofs.Token.Atomic
import CredentialGateway.Proofs.Token.Run

namespace CredentialGateway.Token

/-- A call and what is left of it. -/
structure Thread where
  call : Call
  task : Task

namespace Thread

/-- The answer, if the call was answered. -/
def answer? (t : Thread) : Option Answer :=
  match t.task with
  | .answered answer => some answer
  | .access _ _ => none

/-- The token, if one was issued. -/
def issued? (t : Thread) : Option Issued :=
  match t.answer? with
  | some (.issued issued) => some issued
  | _ => none

/-- The time, if it was revoked. -/
def revoked? (t : Thread) : Option UInt64 :=
  match t.call, t.answer? with
  | .revoke time, some _ => some time
  | _, _ => none

end Thread

/-- An authority and the calls that are made of it at the same time. -/
structure Machine where
  authority : Authority
  threads : List Thread

namespace Machine

/-- The machine when all calls begin. -/
def start (mac : Mac) (a : Authority) (calls : List Call) : Machine :=
  ⟨a, calls.map fun c => ⟨c, a.begin mac c⟩⟩

/-- The machine after the turn of one call. -/
def step (m : Machine) (i : Nat) : Machine :=
  match m.threads[i]? with
  | none => m
  | some t =>
    let (answer, authority) := t.task.resume m.authority
    ⟨authority, m.threads.set i ⟨t.call, .answered answer⟩⟩

/-- The machine after turns, one after another. -/
def run (m : Machine) (turns : List Nat) : Machine :=
  turns.foldl step m

/-- The answer to a call, if it was answered. -/
def answer? (m : Machine) (i : Nat) : Option Answer :=
  m.threads[i]?.bind Thread.answer?

/-- The tokens that were issued. -/
def issued (m : Machine) : List Issued :=
  m.threads.filterMap Thread.issued?

/-- The times that were revoked. -/
def revoked (m : Machine) : List UInt64 :=
  m.threads.filterMap Thread.revoked?

theorem run_append (m : Machine) (before after : List Nat) :
    m.run (before ++ after) = (m.run before).run after :=
  List.foldl_append

/-! ### One turn -/

variable {mac : Mac} {a : Authority} {m : Machine} {i j : Nat} {c : Call}

theorem getElem?_step_ne (h : i ≠ j) : (m.step i).threads[j]? = m.threads[j]? := by
  rw [step]
  cases m.threads[i]? with
  | none => rfl
  | some t => exact List.getElem?_set_ne h

/-- An answered call stays as it is. -/
theorem step_answered {answer : Answer} (h : m.threads[i]? = some ⟨c, .answered answer⟩) :
    m.step i = m := by
  obtain ⟨hi, hget⟩ := List.getElem?_eq_some_iff.mp h
  simp only [step, h, Task.resume]
  rw [← hget, List.set_getElem_self]

/-- **The first turn of a call does what the call does alone.** -/
theorem step_begin (hkey : Authority.SharesKey a m.authority)
    (h : m.threads[i]? = some ⟨c, a.begin mac c⟩) :
    m.step i = ⟨(m.authority.perform mac c).2,
      m.threads.set i ⟨c, .answered (m.authority.perform mac c).1⟩⟩ := by
  simp only [step, h, Authority.resume_begin hkey]

/-- What every turn leaves true of the machine that was started: the key is the one it was started
with, and a call has not had its turn or is answered. -/
structure Started (mac : Mac) (a : Authority) (m : Machine) : Prop where
  sharesKey : Authority.SharesKey a m.authority
  thread : ∀ t ∈ m.threads, t.task = a.begin mac t.call ∨ ∃ answer, t.task = .answered answer

theorem started_start (mac : Mac) (a : Authority) (calls : List Call) :
    Started mac a (start mac a calls) where
  sharesKey := .refl a
  thread t ht := by
    obtain ⟨c, -, rfl⟩ := List.mem_map.mp ht
    exact .inl rfl

/-- A turn changes nothing, or it is the first turn of a call. -/
theorem Started.step_cases (hm : Started mac a m) (i : Nat) :
    m.step i = m ∨ ∃ c x next, m.threads[i]? = some ⟨c, .access x next⟩ ∧
      m.step i = ⟨(m.authority.perform mac c).2,
        m.threads.set i ⟨c, .answered (m.authority.perform mac c).1⟩⟩ := by
  cases hthread : m.threads[i]? with
  | none => exact .inl (by rw [step, hthread])
  | some t =>
      obtain ⟨c, task⟩ := t
      cases task with
      | answered answer => exact .inl (step_answered hthread)
      | access x next =>
          rcases hm.thread _ (List.mem_of_getElem? hthread) with hbegin | ⟨answer, hanswer⟩
          · simp only at hbegin
            have hfirst := hthread
            rw [hbegin] at hfirst
            exact .inr ⟨c, x, next, rfl, step_begin hm.sharesKey hfirst⟩
          · cases hanswer

theorem Started.step (hm : Started mac a m) (i : Nat) : Started mac a (m.step i) := by
  rcases hm.step_cases i with hsame | ⟨c, x, next, -, hstep⟩
  · rw [hsame]
    exact hm
  · rw [hstep]
    refine ⟨hm.sharesKey.trans (Authority.sharesKey_perform mac _ c), fun t ht => ?_⟩
    rcases List.mem_or_eq_of_mem_set ht with hold | rfl
    · exact hm.thread t hold
    · exact .inr ⟨_, rfl⟩

theorem cutoff_le_step (hm : Started mac a m) (i : Nat) :
    m.authority.cutoff ≤ (m.step i).authority.cutoff := by
  rcases hm.step_cases i with hsame | ⟨c, x, next, -, hstep⟩
  · rw [hsame]
    exact UInt64.le_refl _
  · rw [hstep]
    exact Authority.cutoff_le_perform mac m.authority c

theorem answered_step {answer : Answer} (h : m.threads[i]? = some ⟨c, .answered answer⟩) (j : Nat) :
    (m.step j).threads[i]? = some ⟨c, .answered answer⟩ := by
  by_cases hji : j = i
  · rwa [hji, step_answered h]
  · rwa [getElem?_step_ne hji]

/-! ### Many turns -/

theorem Started.run (hm : Started mac a m) (turns : List Nat) : Started mac a (m.run turns) := by
  induction turns generalizing m with
  | nil => exact hm
  | cons i rest ih => exact ih (hm.step i)

/-- **No turns move the cutoff back.** -/
theorem cutoff_le_run (hm : Started mac a m) (turns : List Nat) :
    m.authority.cutoff ≤ (m.run turns).authority.cutoff := by
  induction turns generalizing m with
  | nil => exact UInt64.le_refl _
  | cons i rest ih => exact UInt64.le_trans (cutoff_le_step hm i) (ih (hm.step i))

theorem answered_run {answer : Answer} (h : m.threads[i]? = some ⟨c, .answered answer⟩)
    (turns : List Nat) : (m.run turns).threads[i]? = some ⟨c, .answered answer⟩ := by
  induction turns generalizing m with
  | nil => exact h
  | cons j rest ih => exact ih (answered_step h j)

theorem getElem?_run_of_not_mem {turns : List Nat} (h : i ∉ turns) :
    (m.run turns).threads[i]? = m.threads[i]? := by
  induction turns generalizing m with
  | nil => rfl
  | cons j rest ih =>
      obtain ⟨hij, hrest⟩ := not_or.mp (List.mem_cons.not.mp h)
      exact (ih hrest).trans (getElem?_step_ne (Ne.symm hij))

/-- **A call is answered at its first turn**, and does there what it would do alone. -/
theorem run_first_turn {calls : List Call} {before : List Nat} (hfirst : i ∉ before)
    (hcall : calls[i]? = some c) (after : List Nat) :
    let m := (start mac a calls).run before
    (m.step i).authority = (m.authority.perform mac c).2 ∧
      ((m.step i).run after).threads[i]? =
        some ⟨c, .answered (m.authority.perform mac c).1⟩ := by
  intro m
  have hthread : m.threads[i]? = some ⟨c, a.begin mac c⟩ := by
    rw [getElem?_run_of_not_mem hfirst, start, List.getElem?_map, hcall]
    rfl
  have hstep := step_begin ((started_start mac a calls).run before).sharesKey hthread
  refine ⟨by rw [hstep], answered_run ?_ after⟩
  obtain ⟨hi, -⟩ := List.getElem?_eq_some_iff.mp hthread
  rw [hstep, List.getElem?_set_self hi]

/-! ### The tallies -/

/-- What is collected from a list gains what a new item gives, in the place of an item that gave
nothing. -/
theorem perm_filterMap_set {α β : Type} {f : α → Option β} {old : α} (new : α) (hold : f old = none) :
    ∀ {l : List α} {i : Nat}, l[i]? = some old →
      ((l.set i new).filterMap f).Perm ((f new).toList ++ l.filterMap f)
  | [], _, h => by cases h
  | x :: l, 0, h => by
      obtain rfl : x = old := Option.some.inj h
      rw [List.set_cons_zero, List.filterMap_cons, List.filterMap_cons, hold]
      cases f new with
      | none => exact .refl _
      | some b => exact .refl _
  | x :: l, i + 1, h => by
      have ih := perm_filterMap_set new hold (l := l) (i := i) h
      rw [List.set_cons_succ, List.filterMap_cons, List.filterMap_cons]
      cases f x with
      | none => exact ih
      | some b => exact (ih.cons b).trans List.perm_middle.symm

/-- What an authority remembers, told by the tokens that it issued and the times that were revoked,
in any order.  The counter is the number of tokens, in a word; the versions are the numbers up to
it; a token writes the claims it was issued with; and the cutoff is the greatest of the times, or
zero. -/
structure Tallies (a : Authority) (issued : List Issued) (revoked : List UInt64) : Prop where
  version_eq : a.version = UInt64.ofNat issued.length
  versions_perm : (issued.map fun t => t.claims.version).Perm
    ((List.range issued.length).map fun k => UInt64.ofNat (k + 1))
  written : ∀ t ∈ issued, Authority.claimsIn? (Utf8.encodeString t.token) = some t.claims
  cutoff_eq : a.cutoff.toNat = latest revoked

theorem tallies_ofStore (s : Store) : Tallies (Authority.ofStore s) [] [] where
  version_eq := rfl
  versions_perm := .refl _
  written := by simp
  cutoff_eq := rfl

theorem Tallies.of_perm {issued issued' : List Issued} {revoked revoked' : List UInt64}
    (h : Tallies a issued revoked) (hissued : issued'.Perm issued)
    (hrevoked : revoked'.Perm revoked) : Tallies a issued' revoked' where
  version_eq := by rw [hissued.length_eq, h.version_eq]
  versions_perm := by
    rw [hissued.length_eq]
    exact (hissued.map _).trans h.versions_perm
  written t ht := h.written t (hissued.mem_iff.mp ht)
  cutoff_eq := h.cutoff_eq.trans (latest_of_perm hrevoked.symm)

theorem Tallies.issue {issued : List Issued} {revoked : List UInt64} (h : Tallies a issued revoked)
    (mac : Mac) (caller : Caller) (o : Occasion) :
    Tallies (a.issue mac caller o).2 ((a.issue mac caller o).1 :: issued) revoked where
  version_eq := by
    change a.version + 1 = UInt64.ofNat (issued.length + 1)
    rw [h.version_eq, UInt64.ofNat_add]
    rfl
  versions_perm := by
    have hversion : (a.issue mac caller o).1.claims.version = UInt64.ofNat (issued.length + 1) := by
      change a.version + 1 = _
      rw [h.version_eq, UInt64.ofNat_add]
      rfl
    rw [List.length_cons, List.range_succ, List.map_append, List.map_cons, hversion]
    exact (h.versions_perm.cons _).trans (List.perm_append_singleton _ _).symm
  written t ht := by
    rcases List.mem_cons.mp ht with rfl | hold
    · exact Authority.claimsIn?_issue mac a caller o
    · exact h.written t hold
  cutoff_eq := h.cutoff_eq

theorem Tallies.revoke {issued : List Issued} {revoked : List UInt64}
    (h : Tallies a issued revoked) (time : UInt64) :
    Tallies (a.revoke time) issued (time :: revoked) where
  version_eq := h.version_eq
  versions_perm := h.versions_perm
  written := h.written
  cutoff_eq := Authority.latest_cons_eq_cutoff_revoke h.cutoff_eq time

theorem issued_start (mac : Mac) (a : Authority) (calls : List Call) :
    (start mac a calls).issued = [] := by
  refine List.filterMap_eq_nil_iff.mpr fun t ht => ?_
  obtain ⟨c, -, rfl⟩ := List.mem_map.mp ht
  cases c with
  | issue caller o => rfl
  | verify now presented =>
      simp only [Authority.begin]
      cases a.readClaims mac now (Authority.presentedToken presented) with
      | error cause => rfl
      | ok claims => rfl
  | revoke time => rfl

theorem revoked_start (mac : Mac) (a : Authority) (calls : List Call) :
    (start mac a calls).revoked = [] := by
  refine List.filterMap_eq_nil_iff.mpr fun t ht => ?_
  obtain ⟨c, -, rfl⟩ := List.mem_map.mp ht
  cases c with
  | issue caller o => rfl
  | verify now presented => rfl
  | revoke time => rfl

/-- **A turn keeps the tallies.** -/
theorem Tallies.step (hm : Started mac a m) (h : Tallies m.authority m.issued m.revoked) (i : Nat) :
    Tallies (m.step i).authority (m.step i).issued (m.step i).revoked := by
  rcases hm.step_cases i with hsame | ⟨c, x, next, hthread, hstep⟩
  · rw [hsame]
    exact h
  · have hissued := perm_filterMap_set (f := Thread.issued?)
      ⟨c, .answered (m.authority.perform mac c).1⟩ rfl hthread
    have hrevoked := perm_filterMap_set (f := Thread.revoked?)
      ⟨c, .answered (m.authority.perform mac c).1⟩ (by cases c <;> rfl) hthread
    rw [hstep]
    cases c with
    | issue caller o => exact (h.issue mac caller o).of_perm hissued hrevoked
    | verify now presented => exact h.of_perm hissued hrevoked
    | revoke time => exact (h.revoke time).of_perm hissued hrevoked

theorem Tallies.run (hm : Started mac a m) (h : Tallies m.authority m.issued m.revoked)
    (turns : List Nat) :
    Tallies (m.run turns).authority (m.run turns).issued (m.run turns).revoked := by
  induction turns generalizing m with
  | nil => exact h
  | cons i rest ih => exact ih (hm.step i) (h.step hm i)

theorem tallies_run_start (mac : Mac) (s : Store) (calls : List Call) (turns : List Nat) :
    let m := (start mac (.ofStore s) calls).run turns
    Tallies m.authority m.issued m.revoked := by
  refine Tallies.run (started_start mac _ calls) ?_ turns
  rw [issued_start, revoked_start]
  exact tallies_ofStore s

/-- Fewer tokens than a word has values have the numbers up to their count. -/
theorem Tallies.exact {issued : List Issued} {revoked : List UInt64} (h : Tallies a issued revoked)
    (hfits : issued.length < 2 ^ 64) :
    a.version.toNat = issued.length ∧
      (issued.map fun t => t.claims.version.toNat).Perm (List.range' 1 issued.length) := by
  constructor
  · rw [h.version_eq, UInt64.toNat_ofNat_of_lt' hfits]
  · have hversions := h.versions_perm.map UInt64.toNat
    rw [List.map_map, List.map_map] at hversions
    have hnumbers : ((List.range issued.length).map (UInt64.toNat ∘ fun k => UInt64.ofNat (k + 1))) =
        List.range' 1 issued.length := by
      rw [List.range'_eq_map_range]
      refine List.map_congr_left fun k hk => ?_
      have hk' : k + 1 < 2 ^ 64 := Nat.lt_of_le_of_lt (List.mem_range.mp hk) hfits
      rw [Function.comp_apply, UInt64.toNat_ofNat_of_lt' hk', Nat.add_comm]
    rw [hnumbers] at hversions
    exact hversions

/-- A revocation that has had its turn is behind the cutoff. -/
theorem time_le_cutoff_of_mem {calls : List Call} {turns : List Nat} {time : UInt64}
    (hmem : j ∈ turns) (hcall : calls[j]? = some (.revoke time)) :
    time ≤ ((start mac a calls).run turns).authority.cutoff := by
  obtain ⟨before, after, rfl, hfirst⟩ := List.eq_append_cons_of_mem hmem
  have hturn : (((start mac a calls).run before).step j).authority =
      (((start mac a calls).run before).authority.perform mac (.revoke time)).2 :=
    (run_first_turn hfirst hcall after).1
  have hstarted := (started_start mac a calls).run before
  rw [run_append]
  refine UInt64.le_trans ?_ (cutoff_le_run (hstarted.step j) after)
  rw [hturn]
  exact (Authority.cutoff_revoke _ time).2

/-- **Calls that are made at the same time.**  However the accesses of any calls are interleaved:
after fewer issues than a word has values, the counter is their number and the versions that the
tokens write are the numbers up to it, each once; the cutoff is the greatest time revoked, or zero,
and is never moved back; a revocation is answered the cutoff right after its own turn; and a
verification is answered what the authority says at its turn, so that after a revocation it accepts
no token created before the time revoked, and it does not refuse as revoked a token created no
earlier than the cutoff at its turn. -/
theorem calls_interleave (mac : Mac) (s : Store) (calls : List Call) (turns : List Nat) :
    let begun := start mac (.ofStore s) calls
    let m := begun.run turns
    (m.issued.length < 2 ^ 64 → m.authority.version.toNat = m.issued.length ∧
      (m.issued.map fun t => t.claims.version.toNat).Perm (List.range' 1 m.issued.length)) ∧
    (∀ t ∈ m.issued, Authority.claimsIn? (Utf8.encodeString t.token) = some t.claims) ∧
    m.authority.cutoff.toNat = latest m.revoked ∧
    (∀ more, m.authority.cutoff ≤ (m.run more).authority.cutoff) ∧
    ∀ before i after, turns = before ++ i :: after → i ∉ before →
      (∀ caller o, calls[i]? = some (.issue caller o) →
        ∃ t ∈ m.issued, m.answer? i = some (.issued t)) ∧
      (∀ time, calls[i]? = some (.revoke time) → time ∈ m.revoked ∧
        m.answer? i = some (.cutoff (begun.run (before ++ [i])).authority.cutoff)) ∧
      ∀ now presented, calls[i]? = some (.verify now presented) →
        m.answer? i =
          some (.verdict ((begun.run before).authority.verify mac now presented)) ∧
        (∀ c, m.answer? i = some (.verdict (.ok c)) →
          ∀ j ∈ before, ∀ time, calls[j]? = some (.revoke time) → time ≤ c.createdAt) ∧
        (∀ c, Authority.claimsIn? (Authority.presentedToken presented) = some c →
          (begun.run before).authority.cutoff ≤ c.createdAt →
          ∀ time cutoff, m.answer? i ≠ some (.verdict (.error (.revoked time cutoff)))) := by
  intro begun m
  have htallies := tallies_run_start mac s calls turns
  refine ⟨htallies.exact, htallies.written, htallies.cutoff_eq,
    cutoff_le_run ((started_start mac _ calls).run turns), ?_⟩
  rintro before i after rfl hfirst
  have hrun : m = ((begun.run before).step i).run after := run_append begun before (i :: after)
  have hthread : ∀ c, calls[i]? = some c →
      m.threads[i]? = some ⟨c, .answered ((begun.run before).authority.perform mac c).1⟩ := by
    intro c hcall
    rw [hrun]
    exact (run_first_turn hfirst hcall after).2
  have hanswer : ∀ c, calls[i]? = some c →
      m.answer? i = some ((begun.run before).authority.perform mac c).1 := by
    intro c hcall
    rw [answer?, hthread c hcall]
    rfl
  refine ⟨?_, ?_, ?_⟩
  · intro caller o hcall
    exact ⟨_, List.mem_filterMap.mpr ⟨_, List.mem_of_getElem? (hthread _ hcall), rfl⟩,
      hanswer _ hcall⟩
  · intro time hcall
    refine ⟨List.mem_filterMap.mpr ⟨_, List.mem_of_getElem? (hthread _ hcall), rfl⟩, ?_⟩
    have hturn : (begun.run (before ++ [i])).authority =
        ((begun.run before).authority.perform mac (.revoke time)).2 := by
      rw [run_append begun before [i]]
      exact (run_first_turn hfirst hcall []).1
    rw [hanswer _ hcall, hturn]
    rfl
  · intro now presented hcall
    refine ⟨hanswer _ hcall, ?_, ?_⟩
    · intro c hc j hj time hrevoke
      rw [hanswer _ hcall] at hc
      obtain ⟨-, -, -, -, -, -, hlive⟩ :=
        Authority.verify_eq_ok_iff.mp (Answer.verdict.inj (Option.some.inj hc))
      exact UInt64.le_trans (time_le_cutoff_of_mem hj hrevoke) hlive.unrevoked
    · intro c hwritten hcutoff time cutoff hrevoked
      rw [hanswer _ hcall] at hrevoked
      obtain ⟨d, hd, hbefore⟩ := Authority.createdAt_lt_of_revoked
        (Answer.verdict.inj (Option.some.inj hrevoked))
      rw [hwritten, Option.some_inj] at hd
      exact UInt64.not_lt.mpr hcutoff (hd ▸ hbefore)

/-- Two issues and two revocations whose times come in the wrong order, and a verification of the
token that was issued first, which the revocations do not reach. -/
theorem late_revocation_answers_earlier_time :
    let s : Store := ⟨[], "s3cret", List.nodup_nil, List.not_mem_nil, by decide⟩
    let ada : Caller := ⟨some "ada", none, some "ops"⟩
    let first := ((Authority.ofStore s).issue hmac ada ⟨70, 7, "n1"⟩).1
    let calls : List Call := [.issue ⟨some "eve", none, none⟩ ⟨50, 8, "n2"⟩, .revoke 60,
      .issue ada ⟨70, 7, "n1"⟩, .revoke 40, .verify 75 first.token]
    let m := (start hmac (.ofStore s) calls).run [2, 1, 2, 3, 0]
    let later := (start hmac (.ofStore s) calls).run [2, 1, 2, 3, 0, 4]
    m.issued.length = 2 ∧ m.authority.version.toNat = 2 ∧
      (m.issued.map fun t => t.claims.version.toNat).Perm [1, 2] ∧
      m.answer? 3 = some (.cutoff 60) ∧
      later.answer? 4 = some (.verdict (.ok first.claims)) ∧ 60 ≤ first.claims.createdAt := by
  intro s ada first calls m later
  obtain ⟨hexact, -, -, -, hturns⟩ := calls_interleave hmac s calls [2, 1, 2, 3, 0]
  obtain ⟨-, -, -, -, hlater⟩ := calls_interleave hmac s calls [2, 1, 2, 3, 0, 4]
  have hfits : m.issued.length < 2 ^ 64 :=
    Nat.lt_of_le_of_lt (List.length_filterMap_le Thread.issued? m.threads)
      (by decide : 5 < 2 ^ 64)
  obtain ⟨hversion, hversions⟩ := hexact hfits
  have htwo : m.issued.length = 2 := hversion.symm
  have hrevoked := ((hturns [2, 1, 2] 3 [0] rfl (by decide)).2.1 40 rfl).2
  have hkeeps : Authority.Keeps (Authority.ofStore s).secret s.keyId 70 m.authority :=
    ⟨rfl, rfl, by decide⟩
  obtain ⟨hverdict, haccepted, -⟩ :=
    (hlater [2, 1, 2, 3, 0] 4 [] rfl (by decide)).2.2 75 first.token rfl
  have hverified : later.answer? 4 = some (.verdict (.ok first.claims)) := by
    rw [hverdict, hkeeps.verify_issue (by decide) (by decide) (by decide)]
    rfl
  refine ⟨htwo, hversion.trans htwo, ?_, hrevoked, hverified,
    haccepted _ hverified 1 (by decide) 60 rfl⟩
  rw [htwo] at hversions
  exact hversions

end Machine

end CredentialGateway.Token
