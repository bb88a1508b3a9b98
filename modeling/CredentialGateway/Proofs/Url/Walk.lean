/-
Where a walk along the segments of a path ends.

Every segment but the last is one step: two dots leave the last segment, one dot stays,
any other segment is added.  The last segment is a step too, with a slash behind it if it
is made of dots (`walk_eq`), so a walk is a fold of steps.

A walk that starts behind some segments never looks at them.  It can only leave them, one
at each step up that finds no segment of the walk's own, and how many it leaves is a matter
of the walk alone (`climb`).  So a walk that never climbs stays behind the segments it
started from.
-/
import Mathlib
import CredentialGateway.Proofs.Text.Cut
import CredentialGateway.Proofs.Text.Utf8
import CredentialGateway.Url

namespace CredentialGateway.Url

/-! ### Escapes -/

/-- The characters that escapes are made of. -/
def escapeChars : List Char := '%' :: (List.range 16).map Hex.upperDigit

theorem mem_escapeChars {b : UInt8} {c : Char} (h : c ∈ Percent.escapeOctet b) :
    c ∈ escapeChars := by
  have hdigit : ∀ n, n < 16 → Hex.upperDigit n ∈ escapeChars := by decide
  have hb : b.toNat < 256 := b.toNat_lt
  simp only [Percent.escapeOctet, List.mem_cons, List.not_mem_nil, or_false] at h
  rcases h with rfl | rfl | rfl
  · exact List.mem_cons_self
  · exact hdigit _ (by omega)
  · exact hdigit _ (Nat.mod_lt _ (by omega))

/-- Escaping makes no characters but those of escapes. -/
theorem not_mem_escape {c : Char} {escaped : UInt8 → Bool} {text : List Char}
    (hc : c.toNat < 0x80) (hescape : c ∉ escapeChars) (h : c ∉ text) : c ∉ escape escaped text := by
  rw [escape, List.mem_flatMap]
  rintro ⟨b, hb, hmem⟩
  split at hmem
  · exact hescape (mem_escapeChars hmem)
  · have hlt : b.toNat < 256 := b.toNat_lt
    have hvalue : c.toNat = (Char.ofNat b.toNat).toNat :=
      congrArg Char.toNat (List.mem_singleton.mp hmem)
    have hvalid : b.toNat.isValidChar := .inl (by omega)
    rw [Char.toNat_ofNat, if_pos hvalid] at hvalue
    have hdecoded := Utf8.mem_of_mem_encode (by omega) hb
    rw [← List.mem_singleton.mp hmem] at hdecoded
    exact h hdecoded

namespace Path

/-! ### A walk as a fold -/

/-- One step of a walk, outside the file scheme. -/
def step (sofar : List (List Char)) (segment : List Char) : List (List Char) :=
  if isDouble segment then sofar.dropLast
  else if isSingle segment then sofar
  else sofar ++ [escape escapedInPath segment]

/-- What stands at the end of a walk: nothing, or a slash if the last segment is made of dots. -/
def ending (segments : List (List Char)) : List (List Char) :=
  match segments.getLast? with
  | some last => if isDouble last || isSingle last then [[]] else []
  | none => []

theorem up_web (sofar : List (List Char)) : up false sofar = sofar.dropLast := by
  rw [up.eq_def]
  split <;> rfl

theorem push_web (sofar : List (List Char)) (segment : List Char) :
    push false sofar segment = sofar ++ [escape escapedInPath segment] := rfl

/-- **A walk is a fold of its steps**, with a slash behind it if it ends in dots. -/
theorem walk_eq (sofar segments : List (List Char)) :
    walk false sofar segments = segments.foldl step sofar ++ ending segments := by
  induction segments generalizing sofar with
  | nil => rw [walk, List.foldl_nil, ending, List.getLast?_nil, List.append_nil]
  | cons s rest ih =>
      cases rest with
      | nil =>
          simp only [walk, List.foldl_cons, List.foldl_nil, ending, List.getLast?_singleton, step,
            up_web, push_web]
          by_cases hdouble : isDouble s = true
          · simp [hdouble]
          · by_cases hsingle : isSingle s = true <;> simp [hdouble, hsingle]
      | cons t rest =>
          have hending : ending (s :: t :: rest) = ending (t :: rest) := by
            rw [ending, ending, List.getLast?_cons_cons]
          rw [walk, List.foldl_cons, hending, up_web, push_web, ih, ih, ih, step]
          · split
            · rfl
            · split <;> rfl
          · simp

/-! ### What a walk leaves -/

/-- How many of the segments before it a walk leaves that has `own` segments of its own. -/
def climb : (own : Nat) → List (List Char) → Nat
  | _, [] => 0
  | own, s :: rest =>
    if isDouble s then climb (own - 1) rest + (if own = 0 then 1 else 0)
    else if isSingle s then climb own rest
    else climb (own + 1) rest

/-- **A walk leaves as many of the segments before it as it climbs, and else goes its way as if
they were not there.** -/
theorem foldl_step_append (base own segments : List (List Char)) :
    segments.foldl step (base ++ own) =
      base.take (base.length - climb own.length segments) ++ segments.foldl step own := by
  induction segments generalizing base own with
  | nil => rw [climb, Nat.sub_zero, List.take_length, List.foldl_nil, List.foldl_nil]
  | cons s rest ih =>
      rw [List.foldl_cons, List.foldl_cons, climb, step, step]
      by_cases hdouble : isDouble s = true
      · rw [if_pos hdouble, if_pos hdouble, if_pos hdouble]
        rcases List.eq_nil_or_concat' own with rfl | ⟨own, x, rfl⟩
        · have hbase := ih base.dropLast []
          rw [List.append_nil] at hbase
          have htake : base.dropLast.take (base.dropLast.length - climb 0 rest) =
              base.take (base.length - (climb 0 rest + 1)) := by
            rw [List.dropLast_eq_take, List.take_take, List.length_take]
            congr 1
            omega
          rw [List.append_nil, List.dropLast_nil, hbase, List.length_nil, htake]
          rfl
        · rw [← List.append_assoc, List.dropLast_concat, List.dropLast_concat, ih,
            List.length_append, List.length_singleton, if_neg (Nat.succ_ne_zero _)]
          rfl
      · rw [if_neg hdouble, if_neg hdouble, if_neg hdouble]
        by_cases hsingle : isSingle s = true
        · rw [if_pos hsingle, if_pos hsingle, if_pos hsingle, ih]
        · rw [if_neg hsingle, if_neg hsingle, if_neg hsingle, List.append_assoc, ih,
            List.length_append, List.length_singleton]

/-- Whether a segment is added by the walk that meets it. -/
def isOwn (segment : List Char) : Bool :=
  !isDouble segment && !isSingle segment

/-- **A walk never climbs** if at no point more steps up than segments of its own are behind it. -/
theorem climb_eq_zero_iff {segments : List (List Char)} : ∀ {own : Nat},
    climb own segments = 0 ↔
      ∀ n, (segments.take n).countP isDouble ≤ own + (segments.take n).countP isOwn := by
  induction segments with
  | nil => simp [climb]
  | cons s rest ih =>
      intro own
      rw [climb, ← Nat.and_forall_add_one]
      simp only [List.take_zero, List.countP_nil, Nat.zero_le, true_and, List.take_succ_cons,
        List.countP_cons, isOwn]
      by_cases hdouble : isDouble s = true
      · cases own with
        | zero =>
            have hfirst : ¬ ∀ n, (rest.take n).countP isDouble + 1 ≤ (rest.take n).countP isOwn := by
              intro h
              simpa using h 0
            simpa [hdouble] using hfirst
        | succ own => simp [hdouble, ih, Nat.add_right_comm own 1]
      · by_cases hsingle : isSingle s = true
        · simp [hdouble, hsingle, ih]
        · simp [hdouble, hsingle, ih, Nat.add_right_comm own 1, Nat.add_assoc]

/-! ### Segments and text -/

theorem render_append (front back : List (List Char)) :
    render (front ++ back) = render front ++ render back :=
  List.flatMap_append

theorem pieces_ne_nil (special : Bool) (text : List Char) : pieces special text ≠ [] :=
  Text.pieces_ne_nil '/' _

theorem pieces_append (left right : List Char) :
    pieces true (left ++ '/' :: right) = pieces true left ++ pieces true right := by
  rw [pieces, pieces, pieces, if_pos rfl, if_pos rfl, if_pos rfl, List.map_append, List.map_cons]
  exact Text.pieces_append '/' _ _

theorem pieces_slashes {slashes : List Char} (h : ∀ c ∈ slashes, c = '/') :
    pieces true slashes = List.replicate (slashes.length + 1) [] := by
  induction slashes with
  | nil => rfl
  | cons c slashes ih =>
      obtain ⟨rfl, hrest⟩ := List.forall_mem_cons.mp h
      have happend := pieces_append [] slashes
      rw [List.nil_append] at happend
      rw [happend, ih hrest, List.length_cons, List.replicate_succ]
      rfl

theorem ending_append (front : List (List Char)) {back : List (List Char)} (h : back ≠ []) :
    ending (front ++ back) = ending back := by
  obtain ⟨last, hlast⟩ := Option.ne_none_iff_exists'.mp (mt List.getLast?_eq_none_iff.mp h)
  rw [ending, ending, List.getLast?_append, hlast, Option.some_or]

/-- A walk along anything has a segment in the end. -/
theorem walk_ne_nil (sofar : List (List Char)) {segments : List (List Char)} (h : segments ≠ []) :
    walk false sofar segments ≠ [] := by
  obtain ⟨front, last, rfl⟩ := (List.eq_nil_or_concat' segments).resolve_left h
  rw [walk_eq, List.foldl_append, List.foldl_cons, List.foldl_nil, ending, List.getLast?_concat]
  by_cases hdouble : isDouble last = true
  · simp [hdouble]
  · by_cases hsingle : isSingle last = true <;> simp [step, hdouble, hsingle]

theorem exists_render_segments (path : List Char) :
    ∃ rest, render (segments true false path) = '/' :: rest := by
  obtain ⟨first, more, hsegments⟩ :=
    List.exists_cons_of_ne_nil (walk_ne_nil [] (pieces_ne_nil true path))
  exact ⟨first ++ render more, by rw [segments, hsegments]; rfl⟩

theorem foldl_step_empty (sofar : List (List Char)) (n : Nat) :
    (List.replicate n []).foldl step sofar = sofar ++ List.replicate n [] := by
  induction n generalizing sofar with
  | zero => rw [List.replicate_zero, List.foldl_nil, List.append_nil]
  | succ n ih =>
      have hstep : step sofar [] = sofar ++ [[]] := rfl
      rw [List.replicate_succ, List.foldl_cons, ih, hstep, List.append_assoc]
      rfl

theorem render_empty (n : Nat) : ∀ c ∈ render (List.replicate n []), c = '/' := by
  intro c hc
  obtain ⟨segment, hsegment, hmem⟩ := List.mem_flatMap.mp hc
  rw [List.eq_of_mem_replicate hsegment] at hmem
  exact List.mem_singleton.mp hmem

/-- What stands at the end of a walk is a slash or nothing. -/
theorem render_ending (segments : List (List Char)) :
    ∀ c ∈ render (ending segments), c = '/' := by
  rw [ending]
  split
  · split
    · exact render_empty 1
    · simp [render]
  · simp [render]

/-! ### Segments and slashes -/

/-- No segment of a walk has a slash in it. -/
theorem slash_not_mem_foldl_step {segments : List (List Char)}
    (h : ∀ segment ∈ segments, '/' ∉ segment) :
    ∀ {sofar : List (List Char)}, (∀ segment ∈ sofar, '/' ∉ segment) →
      ∀ segment ∈ segments.foldl step sofar, '/' ∉ segment := by
  induction segments with
  | nil => exact fun hsofar => hsofar
  | cons s rest ih =>
      intro sofar hsofar
      obtain ⟨hs, hrest⟩ := List.forall_mem_cons.mp h
      rw [List.foldl_cons]
      apply ih hrest
      intro segment hsegment
      rw [step] at hsegment
      split at hsegment
      · exact hsofar segment (List.mem_of_mem_dropLast hsegment)
      · split at hsegment
        · exact hsofar segment hsegment
        · rcases List.mem_append.mp hsegment with hsegment | hsegment
          · exact hsofar segment hsegment
          · rw [List.mem_singleton.mp hsegment]
            exact not_mem_escape (by decide) (by decide) hs

end Path

/-! ### Paths behind a server -/

variable {text slashes : List Char}

/-- The segments that a path has entered at the end of a text, were the path to go on. -/
def entered : List Char → List (List Char)
  | [] => []
  | _ :: rest => (Path.pieces true rest).foldl Path.step []

theorem slash_not_mem_entered (text : List Char) : ∀ segment ∈ entered text, '/' ∉ segment := by
  cases text with
  | nil => simp [entered]
  | cons c rest =>
      exact Path.slash_not_mem_foldl_step (Text.sep_not_mem_pieces '/' _) (by simp)

theorem hostPath_cons {c : Char} (rest : List Char) (hc : isSlash c = true) :
    hostPath true (c :: rest) = Path.render ((Path.pieces true rest).foldl Path.step []) ++
      Path.render (Path.ending (Path.pieces true rest)) := by
  have hslash : (c = '/' || (true && c = '\\')) = true := by simpa [isSlash] using hc
  have hwalk : hostPath true (c :: rest) = Path.render (Path.segments true false rest) := if_pos hslash
  rw [hwalk, Path.segments, Path.walk_eq, Path.render_append]

/-- **A path that goes on behind a text** walks on from the segments that are entered there. -/
theorem hostPath_slash (htext : ∀ c, text.head? = some c → isSlash c = true) (more : List Char) :
    hostPath true (text ++ '/' :: more) =
      Path.render ((Path.pieces true more).foldl Path.step (entered text)) ++
        Path.render (Path.ending (Path.pieces true more)) := by
  cases text with
  | nil => exact hostPath_cons more rfl
  | cons c text =>
      rw [List.cons_append, hostPath_cons _ (htext c rfl), Path.pieces_append, List.foldl_append,
        Path.ending_append _ (Path.pieces_ne_nil true more)]
      rfl

/-- The path of a text that ends, up to slashes at its end. -/
theorem exists_hostPath_slashes (htext : ∀ c, text.head? = some c → isSlash c = true)
    (hslashes : ∀ c ∈ slashes, c = '/') :
    ∃ more, (∀ c ∈ more, c = '/') ∧
      hostPath true (text ++ slashes) = Path.render (entered text) ++ more := by
  cases slashes with
  | nil =>
      rw [List.append_nil]
      cases text with
      | nil => exact ⟨['/'], by simp, rfl⟩
      | cons c text =>
          exact ⟨_, Path.render_ending _, hostPath_cons text (htext c rfl)⟩
  | cons c slashes =>
      obtain ⟨rfl, hrest⟩ := List.forall_mem_cons.mp hslashes
      rw [hostPath_slash htext, Path.pieces_slashes hrest, Path.foldl_step_empty,
        Path.render_append, List.append_assoc]
      refine ⟨_, ?_, rfl⟩
      intro c hc
      rcases List.mem_append.mp hc with hc | hc
      · exact Path.render_empty _ c hc
      · exact Path.render_ending _ c hc

end CredentialGateway.Url
