import JsonTap.Proofs.Text.Split
import JsonTap.Proofs.Web.Conditions

/-!
# Targets as they are logged

A client sends a target in octets: a path, or a path and a query with a question mark in between.
The request that the server makes of it has the query on its own, and as the raw path either the
path of the target or the whole target (`Request.IsOf`). The request line shows every octet of the
target, unless the query is empty: then its question mark is missing
(`App.target_is_logged_iff`).
-/

namespace JsonTap.Web

/-! ## Targets that are sent -/

/-- The request that a server makes of a target: the query is what follows the first question mark,
and the raw path is what is in front of it, or everything. -/
structure Request.IsOf (r : Request) (sent path : List Octet) : Prop where
  path_ne_nil : path ≠ []
  no_mark : 0x3F ∉ path
  split : sent = path ∧ r.query = [] ∨ sent = path ++ 0x3F :: r.query
  raw : r.rawPath = some path ∨ r.rawPath = some sent

/-- The target ends in its only question mark, behind a path. -/
structure HasEmptyQuery (sent path : List Octet) : Prop where
  no_mark : 0x3F ∉ path
  split : sent = path ++ [0x3F]

/-- An empty query needs a question mark. -/
theorem HasEmptyQuery.mark_mem {sent path : List Octet} (h : HasEmptyQuery sent path) :
    0x3F ∈ sent := by
  rw [h.split]
  exact List.mem_append_right _ (List.mem_singleton_self _)

theorem HasEmptyQuery.unique {sent path path' : List Octet} (h : HasEmptyQuery sent path)
    (h' : HasEmptyQuery sent path') : path = path' :=
  List.append_cancel_right (h.split.symm.trans h'.split)

inductive ShownAs (sent : List Octet) : List Octet → Prop
  | whole : (∀ path, ¬ HasEmptyQuery sent path) → ShownAs sent sent
  | path {path : List Octet} : HasEmptyQuery sent path → ShownAs sent path

/-- Every request line is shown in some way. -/
theorem exists_shownAs (sent : List Octet) : ∃ shown, ShownAs sent shown := by
  by_cases h : ∃ path, HasEmptyQuery sent path
  · obtain ⟨path, hempty⟩ := h
    exact ⟨path, .path hempty⟩
  · exact ⟨sent, .whole (not_exists.mp h)⟩

/-- A request line is shown in one way. -/
theorem ShownAs.unique {sent shown shown' : List Octet} (h : ShownAs sent shown)
    (h' : ShownAs sent shown') : shown = shown' := by
  cases h with
  | whole hnone =>
      cases h' with
      | whole _ => rfl
      | path hempty => exact absurd hempty (hnone _)
  | path hempty =>
      cases h' with
      | whole hnone => exact absurd hempty (hnone _)
      | path hempty' => exact hempty.unique hempty'

/-- A target with an empty query is shown as its path is. -/
theorem HasEmptyQuery.shownAs_iff {sent path shown : List Octet} (h : HasEmptyQuery sent path) :
    ShownAs sent shown ↔ ShownAs path shown := by
  have hsent : ShownAs sent path := .path h
  have hpath : ShownAs path path := .whole fun p hempty => h.no_mark hempty.mark_mem
  constructor
  · intro hshown
    rwa [← hsent.unique hshown]
  · intro hshown
    rwa [← hpath.unique hshown]

/-- Two targets are shown alike if they are the same, or the same but for an empty query. -/
theorem ShownAs.eq_iff {sent sent' shown shown' : List Octet} (h : ShownAs sent shown)
    (h' : ShownAs sent' shown') :
    shown = shown' ↔
      sent = sent' ∨ HasEmptyQuery sent sent' ∨ HasEmptyQuery sent' sent := by
  constructor
  · rintro rfl
    cases h with
    | whole _ =>
        cases h' with
        | whole _ => exact .inl rfl
        | path hempty => exact .inr (.inr hempty)
    | path hempty =>
        cases h' with
        | whole _ => exact .inr (.inl hempty)
        | path hempty' => exact .inl (hempty.split.trans hempty'.split.symm)
  · rintro (rfl | hempty | hempty)
    · exact h.unique h'
    · exact (hempty.shownAs_iff.mp h).unique h'
    · exact h.unique (hempty.shownAs_iff.mp h')

/-! ## Targets of requests -/

/-- Different octets are shown as different texts. -/
theorem latin1_injective : Function.Injective Text.latin1 := by
  refine List.map_injective_iff.mpr ?_
  intro a b h
  have hval : (Text.ofOctet a).val = (Text.ofOctet b).val := by rw [h]
  exact Fin.ext hval

theorem latin1_split (path query : List Octet) :
    Text.latin1 (path ++ 0x3F :: query) =
      Text.latin1 path ++ ('?' : CodePoint) :: Text.latin1 query := by
  rw [Text.latin1, List.map_append, List.map_cons]
  rfl

/-- Without a question mark in it, the path is what comes before the query. -/
theorem beforeQuery_eq {sent path : List Octet} (h : 0x3F ∉ path)
    (hsent : sent = path ∨ ∃ query, sent = path ++ 0x3F :: query) :
    Request.beforeQuery sent = path := by
  have hplain : ∀ b ∈ path, (b != 0x3F) = true := by
    intro b hb
    rw [bne_iff_ne]
    rintro rfl
    exact h hb
  rcases hsent with rfl | ⟨query, rfl⟩
  · exact List.takeWhile_eq_self_iff.mpr hplain
  · rw [Request.beforeQuery, List.takeWhile_append_of_pos hplain,
      List.takeWhile_cons_of_neg (by decide), List.append_nil]

/-- The path is taken from the octets that were sent, if there are any. -/
theorem Request.targetPath_of_raw {r : Request} {raw : List Octet} (h : r.rawPath = some raw)
    (hne : raw ≠ []) : r.targetPath = .ok (Text.latin1 (beforeQuery raw)) := by
  obtain ⟨b, bs, rfl⟩ := List.exists_cons_of_ne_nil hne
  rw [targetPath, h]

namespace Request.IsOf

variable {r : Request} {sent path : List Octet}

theorem beforeQuery_sent (h : r.IsOf sent path) : beforeQuery sent = path := by
  refine beforeQuery_eq h.no_mark (h.split.imp And.left ?_)
  intro hsplit
  exact ⟨r.query, hsplit⟩

theorem targetPath (h : r.IsOf sent path) : r.targetPath = .ok (Text.latin1 path) := by
  have hne : sent ≠ [] := by
    rintro rfl
    exact h.path_ne_nil h.beforeQuery_sent.symm
  rcases h.raw with hraw | hraw
  · rw [targetPath_of_raw hraw h.path_ne_nil, beforeQuery_eq h.no_mark (.inl rfl)]
  · rw [targetPath_of_raw hraw hne, h.beforeQuery_sent]

/-- Only the path of the target can have an empty query behind it. -/
theorem eq_of_hasEmptyQuery (h : r.IsOf sent path) {path' : List Octet}
    (hempty : HasEmptyQuery sent path') : path' = path := by
  rw [← beforeQuery_eq hempty.no_mark (.inr ⟨[], hempty.split⟩), h.beforeQuery_sent]

/-- The target is what is shown of the octets that were sent. -/
theorem target (h : r.IsOf sent path) {shown : List Octet} (hshown : ShownAs sent shown) :
    r.target = .ok (Text.latin1 shown) := by
  rw [Request.target, h.targetPath]
  cases hshown with
  | whole hnone =>
      rcases h.split with ⟨rfl, hquery⟩ | hsplit
      · rw [hquery]
        rfl
      · cases hquery : r.query with
        | nil =>
            rw [hquery] at hsplit
            exact absurd ⟨h.no_mark, hsplit⟩ (hnone path)
        | cons b bs =>
            rw [hsplit, hquery, latin1_split]
            rfl
  | path hempty =>
      obtain rfl := h.eq_of_hasEmptyQuery hempty
      have hquery : r.query = [] := by
        rcases h.split with ⟨-, hquery⟩ | hsplit
        · exact hquery
        · have hmarks := List.append_cancel_left (hempty.split.symm.trans hsplit)
          exact (List.cons.inj hmarks).2.symm
      rw [hquery]
      rfl

end Request.IsOf

/-! ## Request lines -/

/-- A line tells the method and the target apart at its first blank. -/
theorem requestLine_eq_iff {method method' target target' : Text}
    (h : method = method' ∨ (' ' : CodePoint) ∉ method ∧ (' ' : CodePoint) ∉ method') :
    Exchange.requestLine method target = Exchange.requestLine method' target' ↔
      method = method' ∧ target = target' := by
  constructor
  · intro hline
    have hmethod : method = method' := by
      rcases h with h | ⟨hm, hm'⟩
      · exact h
      · -- neither method has the blank at which both lines are split
        have hsplit := congrArg (Text.splitAt ' ') hline
        rw [Exchange.requestLine, Exchange.requestLine, List.append_assoc,
          List.append_assoc] at hsplit
        change Text.splitAt ' ' (method ++ (' ' : CodePoint) :: target) =
          Text.splitAt ' ' (method' ++ (' ' : CodePoint) :: target') at hsplit
        rw [Text.splitAt_append hm, Text.splitAt_append hm'] at hsplit
        exact (List.cons.inj hsplit).1
    subst hmethod
    exact ⟨rfl, List.append_cancel_left hline⟩
  · rintro ⟨rfl, rfl⟩
    rfl

/-- Two records about requests are the same exactly if the request lines are. -/
theorem lineRecord_eq_iff {method method' target target' : Text} :
    lineRecord method target = lineRecord method' target' ↔
      Exchange.requestLine method target = Exchange.requestLine method' target' := by
  constructor
  · intro h
    exact congrArg Log.Record.template h
  · intro h
    rw [lineRecord, lineRecord, h]

/-- A request is recorded with its method and its target. -/
theorem step_request_records {r : Request} {target : Text} (hline : OneLine r.path)
    (ht : r.target = .ok target) (a : App) (now : Int) (c : Connection) :
    (a.step now c (.request r)).2.records = [lineRecord r.method target] := by
  have hroute := ofPath_eq_exchange_iff.mpr hline
  have hstart := start_eq_ok_iff.mpr ⟨target, ht, rfl⟩
  rw [App.step, App.accept, hroute]
  dsimp only
  rw [hstart]
  rfl

/-- The target of a request is shown as it was sent unless its query is empty, and then its
question mark is missing. So two requests are logged with the same request line if they have the
same method and targets that are the same but for an empty query, and only then, as long as no
method has a blank in it. -/
theorem App.target_is_logged_iff {r : Request} {sent path : List Octet} (h : r.IsOf sent path) :
    (r.target = .ok (Text.latin1 sent) ↔ ¬ HasEmptyQuery sent path) ∧
    (HasEmptyQuery sent path → r.target = .ok (Text.latin1 path)) ∧
    ∀ (r' : Request) (sent' path' : List Octet), r'.IsOf sent' path' →
      OneLine r.path → OneLine r'.path →
      (r.method = r'.method ∨ (' ' : CodePoint) ∉ r.method ∧ (' ' : CodePoint) ∉ r'.method) →
      ∀ a now c a' now' c', ((step a now c (.request r)).2.records =
          (step a' now' c' (.request r')).2.records ↔
        r.method = r'.method ∧
          (sent = sent' ∨ HasEmptyQuery sent sent' ∨ HasEmptyQuery sent' sent)) := by
  refine ⟨?_, fun hempty => h.target (.path hempty), ?_⟩
  · constructor
    · intro hsent hempty
      rw [h.target (.path hempty)] at hsent
      have hpath : path = sent := latin1_injective (Except.ok.inj hsent)
      exact hempty.no_mark (hpath ▸ hempty.mark_mem)
    · intro hnot
      refine h.target (.whole ?_)
      intro p hempty
      exact hnot (h.eq_of_hasEmptyQuery hempty ▸ hempty)
  · intro r' sent' path' h' hline hline' hmethods a now c a' now' c'
    obtain ⟨shown, hshown⟩ := exists_shownAs sent
    obtain ⟨shown', hshown'⟩ := exists_shownAs sent'
    rw [step_request_records hline (h.target hshown),
      step_request_records hline' (h'.target hshown'), List.singleton_inj, lineRecord_eq_iff,
      requestLine_eq_iff hmethods, latin1_injective.eq_iff, hshown.eq_iff hshown']

theorem isOf_letterRequest : letterRequest.IsOf (Utf8.encode "/a") (Utf8.encode "/a") :=
  ⟨by decide, by decide, .inl ⟨rfl, rfl⟩, .inl rfl⟩

/-- A request with a question mark in its query, and with the whole target as its raw path. -/
def twoMarksRequest : Request :=
  { letterRequest with rawPath := some (Utf8.encode "/a?b?c"), query := Utf8.encode "b?c" }

/-- Of two question marks none is missing, and without the query it is another line. -/
theorem App.target_is_logged_iff_two_marks :
    twoMarksRequest.IsOf (Utf8.encode "/a?b?c") (Utf8.encode "/a") ∧
      twoMarksRequest.target = .ok (Text.latin1 (Utf8.encode "/a?b?c")) ∧
      ((create 0).step 1 1 (.request twoMarksRequest)).2.records ≠
        ((create 0).step 2 2 (.request letterRequest)).2.records := by
  have h : twoMarksRequest.IsOf (Utf8.encode "/a?b?c") (Utf8.encode "/a") :=
    ⟨by decide, by decide, .inr rfl, .inr rfl⟩
  have hreach : letterRequest.ReachesHandler := ⟨rfl, by decide, _, _, rfl⟩
  obtain ⟨hsent, -, hlines⟩ := target_is_logged_iff h
  refine ⟨h, hsent.mpr (fun hempty => absurd hempty.split (by decide)), ?_⟩
  rw [ne_eq, hlines letterRequest _ _ isOf_letterRequest hreach.oneLine hreach.oneLine
    (.inl rfl)]
  rintro ⟨-, heq | hempty | hempty⟩
  · exact absurd heq (by decide)
  · exact absurd hempty.split (by decide)
  · exact absurd hempty.split (by decide)

/-- A request with an empty query, and with the whole target as its raw path. -/
def emptyQueryRequest : Request :=
  { letterRequest with rawPath := some (Utf8.encode "/a?") }

/-- The question mark in front of an empty query is in the raw path, and not in the log. -/
theorem App.empty_query_is_not_logged :
    emptyQueryRequest.IsOf (Utf8.encode "/a?") (Utf8.encode "/a") ∧
      emptyQueryRequest.target = .ok "/a" ∧ Text.latin1 (Utf8.encode "/a?") = "/a?" ∧
      letterRequest.IsOf (Utf8.encode "/a") (Utf8.encode "/a") ∧
      Utf8.encode "/a?" ≠ Utf8.encode "/a" ∧
      ((create 0).step 1 1 (.request emptyQueryRequest)).2.records =
        ((create 0).step 2 2 (.request letterRequest)).2.records :=
  ⟨⟨by decide, by decide, .inr rfl, .inr rfl⟩, rfl, rfl, isOf_letterRequest, by decide, rfl⟩

end JsonTap.Web
