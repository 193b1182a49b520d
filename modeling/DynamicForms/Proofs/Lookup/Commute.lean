import DynamicForms.Proofs.Lookup.Matching
import DynamicForms.Proofs.Lookup.Start
import DynamicForms.Proofs.Session.Keep

/-!
# `DynamicForms.Proofs.Lookup.Commute` — answers to independent workers commute

Answers to two workers with independent lookups lead to matching worlds in either order. Each of the two
does the same before and after the other, since nothing that it goes by is touched in between; and their
writes meet only in the order of entries above the paths of the lookups. So the answers of a stretch may
come in any order that leaves those to one worker in theirs, and whatever comes after the stretch, the form
and the workers are the same in the end.

## Contents
- **Order.** `keeps_carryOn_ordered`: the worlds of a run are in order.
- **Two answers.** `Tandem.diamond`, `matches_conclude_conclude`, `matches_complete_complete`.
- **Stretches.** `concludeAll`, `SameTurns`, `matches_concludeAll`.
- **Runs.** `Agree`, `answers_commute`; `Session.not_answers_commute`: what is hidden must not depend
  on the answers.
-/

namespace DynamicForms

open Value (Object)
open Path (Apart segments)
open Run (Relates Keeps keeps_bind keeps_forM keeps_attempt outcome_of_ok outcome_bind_of_ok)

namespace Journal

variable {lookups : String → Option Lookup} {key key' : String} {l l' : Lookup}
  {s s' u v w w' x y : World String Journal}

/-! ## Order -/

/-- What does the same in matching worlds keeps a world in order. -/
theorem keeps_ordered {α : Type} {V : α → α → Prop} {m : Shift α}
    (h : Relates (Matches lookups) V m m) : Keeps (Ordered lookups) m :=
  fun w hw => (h w w (.refl hw)).outcome.ordered

/-- A request in flight has its place among those of its worker. -/
theorem Ordered.exists_place (hw : Ordered lookups w) {errand : Errand}
    (hin : errand ∈ w.parts.desk.engine.inFlight) :
    ∃ place : Nat, (w.parts.ledger.asked errand.worker)[place]? = some errand :=
  List.mem_iff_getElem?.mp (Ledger.mem_asked_iff.mpr ⟨hw.numbered.mem_requests hin, rfl⟩)

theorem keeps_complete_ordered (hind : Independent lookups) (id : Nat) (result : LookupResult) :
    Keeps (Ordered lookups) (complete id result) := by
  intro w hw
  cases herrand : w.parts.desk.engine.errand? id with
  | none =>
    rw [outcome_of_ok (run_complete_of_none herrand result)]
    exact hw
  | some errand =>
    obtain rfl : errand.id = id := by simpa using List.find?_some herrand
    obtain ⟨place, hplace⟩ := hw.exists_place (List.mem_of_find?_eq_some herrand)
    have hend : Ordered lookups ((conclude ⟨errand.worker, place, result⟩).outcome w) :=
      keeps_ordered (relates_matches fun _ _ => relates_conclude hind _) w hw
    rwa [Run.outcome, run_conclude_of_some hplace] at hend

/-- **The worlds of a run are in order.** -/
theorem keeps_carryOn_ordered (hind : Independent lookups) (events : List Desk.Event) :
    Keeps (Ordered lookups) (carryOn events) := by
  refine keeps_bind (keeps_attempt (keeps_ordered (relates_start hind))) fun _ =>
    keeps_forM fun e _ => keeps_attempt ?_
  by_cases he : ∃ id result, e = .complete id result
  · obtain ⟨id, result, rfl⟩ := he
    exact keeps_complete_ordered hind id result
  · exact keeps_ordered (relates_step hind fun id result h => he ⟨id, result, h⟩)

theorem ordered_world (table : List Lookup) (channel : Channel) (wire : Wire)
    (hidden : Option (List String)) (data : Object) :
    Ordered (Desk.roster table) (world table channel wire hidden data) where
  lookup?_eq := rfl
  numbered := ⟨List.nodup_nil, fun h => absurd h List.not_mem_nil, fun h => absurd h List.not_mem_nil⟩
  owned _ h := absurd h List.not_mem_nil

/-! ## Two answers -/

/-- The ways of two lookups part above everything that is at a path of any lookup. -/
theorem Independent.free (hind : Independent lookups) (hl : lookups key = some l)
    (hl' : lookups key' = some l') (hne : key ≠ key') {path path' : String} (hpath : path ∈ l.paths)
    (hpath' : path' ∈ l'.paths) :
    Path.Free (waysOf lookups) (segments path) (segments path') := by
  refine ⟨hind hl hl' hne path hpath path' hpath', ?_⟩
  rintro front hfront hfront' ⟨owner, lookup, own, hlookup, hown, hway⟩
  -- the path at the front lies apart from those of the others
  have hother : ∀ {key l path}, lookups key = some l → path ∈ l.paths → owner ≠ key →
      ¬ front <+: segments path := by
    intro key l path hl hpath hne hprefix
    have hapart := hind hl hlookup hne.symm path hpath own hown
    rcases hway with rfl | rfl
    · obtain ⟨rest, hrest⟩ := hprefix
      exact Path.ne_of_apart hrest.symm hapart rfl
    · exact hapart.2 hprefix
  by_cases howner : owner = key
  · exact hother hl' hpath' (howner.trans_ne hne) hfront'
  · exact hother hl hpath howner hfront

/-- What one worker does leaves everything that another one goes by. -/
theorem Tandem.sameFor_other (h : Tandem lookups key s s' w w') (hind : Independent lookups)
    (hs : Ordered lookups s) (hne : key' ≠ key) : SameFor lookups key' s w where
  ordered := hs
  ordered' := h.same.ordered
  subscriptions_eq := h.aside.subscriptions_eq.symm
  hidden_eq := h.aside.hidden_eq.symm
  sheet_eq := (h.aside.sheet_eq key' hne).symm
  sameAt {l} hl path hpath := by
    obtain ⟨log, hlog, hdata, -⟩ := h.wrote
    rw [hdata]
    refine (Path.sameAt_placeAll_of_apart _ fun entry hentry => ?_).symm
    obtain ⟨l', hl', htarget⟩ := hlog entry hentry
    exact hind hl' hl hne.symm _ (Lookup.mem_paths_of_target htarget) path hpath

/-- **What two workers do leads to matching worlds in either order**: from one world the first one comes to
`v` and the second one to `u`, and each does the same once more after the other. -/
theorem Tandem.diamond (h : Tandem lookups key w u v y) (h' : Tandem lookups key' w v u x)
    (hind : Independent lookups) (hne : key ≠ key') : Matches lookups x y where
  ordered := h'.same.ordered'
  ordered' := h.same.ordered'
  subscriptions_eq := by
    rw [h'.aside'.subscriptions_eq, h.aside.subscriptions_eq, h.aside'.subscriptions_eq,
      h'.aside.subscriptions_eq]
  nextTicket_eq := by
    rw [h'.aside'.nextTicket_eq, h.aside.nextTicket_eq, h.aside'.nextTicket_eq, h'.aside.nextTicket_eq]
  hidden_eq := by
    rw [h'.aside'.hidden_eq, h.aside.hidden_eq, h.aside'.hidden_eq, h'.aside.hidden_eq]
  keys_eq := by rw [h'.aside'.keys_eq, h.aside.keys_eq, h.aside'.keys_eq, h'.aside.keys_eq]
  sheet_eq other := by
    by_cases hkey : other = key
    · rw [hkey, h'.aside'.sheet_eq key hne, h.same.sheet_eq]
    · by_cases hkey' : other = key'
      · rw [hkey', h.aside'.sheet_eq key' hne.symm, h'.same.sheet_eq]
      · rw [h'.aside'.sheet_eq other hkey', h.aside.sheet_eq other hkey, h.aside'.sheet_eq other hkey,
          h'.aside.sheet_eq other hkey']
  data := by
    obtain ⟨log, hlog, hv, hy⟩ := h.wrote
    obtain ⟨log', hlog', hu, hx⟩ := h'.wrote
    rw [hx, hy, hv, hu]
    refine Path.shuffles_placeAll_placeAll _ fun entry hentry entry' hentry' => ?_
    obtain ⟨l, hl, htarget⟩ := hlog entry hentry
    obtain ⟨l', hl', htarget'⟩ := hlog' entry' hentry'
    exact hind.free hl hl' hne (Lookup.mem_paths_of_target htarget) (Lookup.mem_paths_of_target htarget')

/-- What an answer does for its worker. -/
theorem tandem_conclude (hind : Independent lookups) (c : Completion) (h : SameFor lookups c.worker w w') :
    Tandem lookups c.worker w w' ((conclude c).outcome w) ((conclude c).outcome w') :=
  (relates_conclude hind c w w' h.tandem).outcome

/-- **Two answers to different workers** lead to matching worlds in either order. -/
theorem matches_conclude_conclude (hind : Independent lookups) (hw : Ordered lookups w)
    {c c' : Completion} (hne : c.worker ≠ c'.worker) :
    Matches lookups ((conclude c').outcome ((conclude c).outcome w))
      ((conclude c).outcome ((conclude c').outcome w)) := by
  have hfirst := tandem_conclude hind c ((Matches.refl hw).sameFor c.worker)
  have hfirst' := tandem_conclude hind c' ((Matches.refl hw).sameFor c'.worker)
  exact (tandem_conclude hind c (hfirst'.sameFor_other hind hw hne)).diamond
    (tandem_conclude hind c' (hfirst.sameFor_other hind hw hne.symm)) hind hne

/-- An answer by number is one to the worker that asked, as long as that has asked for the same. -/
theorem exists_completion (hw : Ordered lookups w) {errand : Errand}
    (hin : errand ∈ w.parts.desk.engine.inFlight) (result : LookupResult) :
    ∃ c : Completion, c.worker = errand.worker ∧
      ∀ v : World String Journal,
        v.parts.ledger.asked errand.worker = w.parts.ledger.asked errand.worker →
        (complete errand.id result).outcome v = (conclude c).outcome v := by
  obtain ⟨place, hplace⟩ := hw.exists_place hin
  refine ⟨⟨errand.worker, place, result⟩, rfl, fun v hv => ?_⟩
  rw [← hv] at hplace
  rw [Run.outcome, Run.outcome, run_conclude_of_some hplace]

/-- **Two requests in flight of different workers** may be answered in either order. -/
theorem matches_complete_complete (hind : Independent lookups) (hw : Ordered lookups w)
    {errand errand' : Errand} (hin : errand ∈ w.parts.desk.engine.inFlight)
    (hin' : errand' ∈ w.parts.desk.engine.inFlight) (hne : errand.worker ≠ errand'.worker)
    (result result' : LookupResult) :
    Matches lookups ((complete errand'.id result').outcome ((complete errand.id result).outcome w))
      ((complete errand.id result).outcome ((complete errand'.id result').outcome w)) := by
  obtain ⟨c, hc, hsame⟩ := exists_completion hw hin result
  obtain ⟨c', hc', hsame'⟩ := exists_completion hw hin' result'
  have hfirst := tandem_conclude hind c ((Matches.refl hw).sameFor c.worker)
  have hfirst' := tandem_conclude hind c' ((Matches.refl hw).sameFor c'.worker)
  rw [← hc, ← hc'] at hne
  rw [hsame w rfl, hsame' w rfl, hsame' _ (hc' ▸ hfirst.aside.asked_eq _ hne.symm),
    hsame _ (hc ▸ hfirst'.aside.asked_eq _ hne)]
  exact matches_conclude_conclude hind hw hne

/-! ## Stretches -/

theorem outcome_proceed_cons (m : Move) (moves : List Move) (w : World String Journal) :
    (proceed (m :: moves)).outcome w = (proceed moves).outcome ((move m).outcome w) :=
  outcome_bind_of_ok (Run.run_attempt (move m) w)

/-- From matching worlds the same moves lead to matching worlds. -/
theorem Matches.proceed (h : Matches lookups w w') (hind : Independent lookups) (moves : List Move) :
    Matches lookups ((proceed moves).outcome w) ((Journal.proceed moves).outcome w') :=
  (relates_proceed hind moves w w' h).outcome

/-- Answers, one after the other. -/
def concludeAll (cs : List Completion) : Shift Unit :=
  proceed (cs.map .answer)

theorem outcome_concludeAll_cons (c : Completion) (cs : List Completion) (w : World String Journal) :
    (concludeAll (c :: cs)).outcome w = (concludeAll cs).outcome ((conclude c).outcome w) :=
  outcome_proceed_cons (.answer c) (cs.map .answer) w

theorem keeps_conclude_ordered (hind : Independent lookups) (c : Completion) :
    Keeps (Ordered lookups) (conclude c) :=
  keeps_ordered (relates_matches fun _ _ => relates_conclude hind c)

/-- An answer may come before others that go to other workers. -/
theorem matches_concludeAll_front (hind : Independent lookups) (hw : Ordered lookups w) {c : Completion}
    {front : List Completion} (hfront : ∀ other ∈ front, other.worker ≠ c.worker)
    (back : List Completion) :
    Matches lookups ((concludeAll (front ++ c :: back)).outcome w)
      ((concludeAll (c :: (front ++ back))).outcome w) := by
  induction front generalizing w with
  | nil => exact .refl (keeps_ordered (relates_proceed hind _) w hw)
  | cons first rest ih =>
    rw [List.cons_append, outcome_concludeAll_cons]
    refine (ih (keeps_conclude_ordered hind first w hw)
      fun other hother => hfront other (List.mem_cons_of_mem _ hother)).trans ?_
    rw [outcome_concludeAll_cons, outcome_concludeAll_cons, List.cons_append, outcome_concludeAll_cons]
    exact (matches_conclude_conclude hind hw (hfront first List.mem_cons_self)).proceed hind _

/-- Two lists of answers have the same answers to each worker, in the same order. -/
def SameTurns (cs cs' : List Completion) : Prop :=
  ∀ key, cs.filter (·.worker = key) = cs'.filter (·.worker = key)

/-- The first answer of one list stands in the other one behind answers to other workers only. -/
theorem SameTurns.exists_split {c : Completion} {cs cs' : List Completion} (h : SameTurns (c :: cs) cs') :
    ∃ front back, cs' = front ++ c :: back ∧ (∀ other ∈ front, other.worker ≠ c.worker) ∧
      SameTurns cs (front ++ back) := by
  have hmine := h c.worker
  rw [List.filter_cons_of_pos (by simp)] at hmine
  obtain ⟨front, back, rfl, hfront, -, -⟩ := List.filter_eq_cons_iff.mp hmine.symm
  refine ⟨front, back, rfl, fun other hother => by simpa using hfront other hother, fun key => ?_⟩
  have hkey := h key
  rw [List.filter_append, List.filter_cons] at hkey
  rw [List.filter_append]
  by_cases hc : c.worker = key
  · -- nothing in front of it goes to its worker
    have hnone : front.filter (·.worker = key) = [] := by
      rw [List.filter_eq_nil_iff]
      exact fun other hother => by rw [← hc]; exact hfront other hother
    rw [List.filter_cons_of_pos (by simpa using hc), hnone, if_pos (by simpa using hc)] at hkey
    rw [hnone]
    exact (List.cons.inj hkey).2
  · rwa [List.filter_cons_of_neg (by simpa using hc), if_neg (by simpa using hc)] at hkey

/-- **A stretch of answers** leads to matching worlds in any order that leaves those to one worker in
theirs. -/
theorem matches_concludeAll (hind : Independent lookups) (hw : Ordered lookups w)
    {cs cs' : List Completion} (h : SameTurns cs cs') :
    Matches lookups ((concludeAll cs).outcome w) ((concludeAll cs').outcome w) := by
  induction cs generalizing cs' w with
  | nil =>
    have hnil : cs' = [] := by
      cases cs' with
      | nil => rfl
      | cons c rest =>
        have hmine := h c.worker
        rw [List.filter_nil, List.filter_cons_of_pos (by simp)] at hmine
        cases hmine
    rw [hnil]
    exact .refl hw
  | cons c rest ih =>
    obtain ⟨front, back, rfl, hfront, hrest⟩ := h.exists_split
    refine .trans ?_ (matches_concludeAll_front hind hw hfront back).symm
    rw [outcome_concludeAll_cons, outcome_concludeAll_cons]
    exact ih (keeps_conclude_ordered hind c w hw) hrest

/-! ## Runs -/

/-- Two worlds agree on the form but for the order of names, and on the workers but for the numbers of
requests. -/
structure Agree (w w' : World String Journal) : Prop where
  /-- The data. -/
  data : Value.Reorders (.object w.store.data) (.object w'.store.data)
  /-- The workers, each with its phase, its error, its current key and the last key that was answered. -/
  worker_eq : ∀ key, (w.parts.desk.engine.workers.get? key).map Worker.unnumbered
    = (w'.parts.desk.engine.workers.get? key).map Worker.unnumbered
  /-- What each worker has asked for. -/
  slips_eq : ∀ key, w.parts.ledger.slips key = w'.parts.ledger.slips key

theorem Matches.agree (h : Matches lookups w w') : Agree w w' where
  data := h.data.reorders
  worker_eq key := congrArg Sheet.worker (h.sheet_eq key)
  slips_eq key := congrArg Sheet.slips (h.sheet_eq key)

theorem independent_roster {table : List Lookup} (h : ∀ l ∈ table, ∀ l' ∈ table, l.key ≠ l'.key →
    ∀ path ∈ l.paths, ∀ path' ∈ l'.paths, Apart (segments path) (segments path')) :
    Independent (Desk.roster table) := by
  intro key key' l l' hl hl' hne
  rw [← Desk.key_of_roster hl, ← Desk.key_of_roster hl'] at hne
  exact h l (Desk.mem_of_roster hl) l' (Desk.mem_of_roster hl') hne

/-- Some runs, one after the other: workers that were closed in one of them are started again in the next. -/
theorem exists_run_stints (stints : List (List Desk.Event)) (w : World String Journal) :
    ∃ w', (stints.forM carryOn).run w = .ok () w' := by
  have hone : ∀ events w, (carryOn events).Yields w fun _ => True := fun events w => by
    obtain ⟨w', hrun⟩ := exists_run_carryOn events w
    exact ⟨(), w', hrun, trivial⟩
  obtain ⟨⟨⟩, w', hrun, -⟩ : (stints.forM carryOn).Yields w fun _ => True :=
    Run.yields_forM (I := fun _ _ => True) (fun events _ w _ => hone events w) trivial
  exact ⟨w', hrun⟩

/-- **Independent workers commute.** At any moment of the life of a desk whose lookups are independent, two
requests in flight of different workers may be answered in either order, whatever the answers are. And a
stretch of answers may be put in any order that leaves those to one worker in theirs: whatever happens
next, the form and the workers come out the same. -/
theorem answers_commute {table : List Lookup} (hind : Independent (Desk.roster table))
    (channel : Channel) (wire : Wire) (hidden : Option (List String)) (data : Object)
    (stints : List (List Desk.Event)) :
    ∃ w : World String Journal,
      (stints.forM carryOn).run (world table channel wire hidden data) = .ok () w ∧
      (stints.forM Desk.carryOn).run (Desk.world table channel wire hidden data)
        = .ok () (w.mapParts Journal.desk) ∧
      (∀ errand ∈ w.parts.desk.engine.inFlight, ∀ errand' ∈ w.parts.desk.engine.inFlight,
        errand.worker ≠ errand'.worker → ∀ result result' : LookupResult,
          Agree ((complete errand'.id result').outcome ((complete errand.id result).outcome w))
            ((complete errand.id result).outcome ((complete errand'.id result').outcome w))) ∧
      ∀ cs cs' : List Completion, SameTurns cs cs' → ∀ moves : List Move,
        Agree ((proceed moves).outcome ((concludeAll cs).outcome w))
          ((proceed moves).outcome ((concludeAll cs').outcome w)) := by
  obtain ⟨w, hrun⟩ := exists_run_stints stints (world table channel wire hidden data)
  have hw : Ordered (Desk.roster table) w := by
    have hkeeps : Keeps (Ordered (Desk.roster table)) (stints.forM carryOn) :=
      keeps_forM fun events _ => keeps_carryOn_ordered hind events
    have hend := hkeeps _ (ordered_world table channel wire hidden data)
    rwa [outcome_of_ok hrun] at hend
  refine ⟨w, hrun, ?_, fun errand hin errand' hin' hne result result' => ?_, fun cs cs' h moves => ?_⟩
  · show (stints.forM Desk.carryOn).run
      ((world table channel wire hidden data).mapParts Journal.desk) = _
    rw [Run.mirrors_forM mirrors_carryOn stints, hrun]
    rfl
  · exact (matches_complete_complete hind hw hin hin' hne result result').agree
  · exact ((matches_concludeAll hind hw h).proceed hind moves).agree

/-- The kind of an office is looked up by its number, and its size by the company. -/
def officeTable : List Lookup :=
  [⟨"number", "/kind", [⟨"number", "number"⟩], [⟨"kind", "office.kind"⟩]⟩,
    ⟨"company", "/size", [⟨"company", "company"⟩], [⟨"size", "office.size"⟩]⟩]

/-- Both are asked for. -/
def officeEvents : List Desk.Event :=
  [.write (.set "number" (.text "1")), .write (.set "company" (.text "Acme"))]

/-- Both answers go into one object, which the first of them makes. -/
theorem answers_commute_office :
    ∃ w : World String Journal,
      ([officeEvents].forM carryOn).run (world officeTable .manual ⟨[], []⟩ none []) = .ok () w ∧
      ∃ errand ∈ w.parts.desk.engine.inFlight, ∃ errand' ∈ w.parts.desk.engine.inFlight,
        errand.worker ≠ errand'.worker ∧ ∀ result result' : LookupResult,
          Agree ((complete errand'.id result').outcome ((complete errand.id result).outcome w))
            ((complete errand.id result).outcome ((complete errand'.id result').outcome w)) := by
  have hind : Independent (Desk.roster officeTable) := independent_roster (by decide +kernel)
  obtain ⟨w, hrun, -, htwo, -⟩ := answers_commute hind .manual ⟨[], []⟩ none [] [officeEvents]
  have hworkers : (([officeEvents].forM carryOn).outcome
      (world officeTable .manual ⟨[], []⟩ none [])).parts.desk.engine.inFlight.map (·.worker)
        = ["number", "company"] := by decide +kernel
  rw [outcome_of_ok hrun] at hworkers
  have hmem : ∀ key ∈ ["number", "company"], ∃ errand ∈ w.parts.desk.engine.inFlight,
      errand.worker = key := by
    rw [← hworkers]
    exact fun key hkey => List.mem_map.mp hkey
  obtain ⟨errand, hin, hworker⟩ := hmem "number" (by decide)
  obtain ⟨errand', hin', hworker'⟩ := hmem "company" (by decide)
  have hne : errand.worker ≠ errand'.worker := by
    rw [hworker, hworker']
    decide
  exact ⟨w, hrun, errand, hin, errand', hin', hne, htwo errand hin errand' hin' hne⟩

end Journal

/-! ## What is hidden must not depend on the answers -/

namespace Session

/-- A number that the kind is looked up by, and a company that the size is looked up by; only a business
has a size. -/
def kindSchema : Schema :=
  ⟨"Size", none,
    [.field { (default : Field) with id := "number", autoFill := some ⟨"/kind", ["number"], ["kind"]⟩ },
     .field { (default : Field) with id := "kind" },
     .field { (default : Field) with id := "company", autoFill := some ⟨"/size", ["company"], ["size"]⟩ },
     .field { (default : Field) with id := "size", showWhen := some ⟨"kind", .text "business"⟩ }]⟩

/-- The form of the schema. -/
def kindForm : Form :=
  (Form.ofSchema kindSchema).toOption.getD default

/-- Both lookups are asked for. -/
def kindEvents : List Event :=
  [.mount, .put (.set "number" (.text "1")), .put (.set "company" (.text "Acme"))]

/-- The answers: the number is that of a business, and the company has size 10. -/
def kindResults : LookupResult × LookupResult :=
  (.answered (some ⟨true, some [("kind", .text "business")], none⟩),
    .answered (some ⟨true, some [("size", .text "10")], none⟩))

/-- **Answers do not commute where one of them decides what is hidden.** In a session the size is passed
over as long as it is hidden; so if its answer comes before that which shows it, the size is left blank. -/
theorem not_answers_commute :
    ¬ ∀ (form : Form) (events : List Event) (errand errand' : Errand) (result result' : LookupResult),
      Journal.Independent (Desk.roster (Item.lookups form.schema.items)) →
      let w := carryOn (world (ofForm form .manual ⟨[], []⟩ none)) events
      errand ∈ w.parts.engine.inFlight → errand' ∈ w.parts.engine.inFlight →
      errand.worker ≠ errand'.worker →
      Value.Reorders
        (.object ((complete errand'.id result').outcome
          ((complete errand.id result).outcome w)).store.data)
        (.object ((complete errand.id result).outcome
          ((complete errand'.id result').outcome w)).store.data) := by
  intro h
  have hind : Journal.Independent (Desk.roster (Item.lookups kindForm.schema.items)) :=
    Journal.independent_roster (by decide +kernel)
  have hflight : (carryOn (world (ofForm kindForm .manual ⟨[], []⟩ none))
      kindEvents).parts.engine.inFlight.map (fun errand => (errand.id, errand.worker))
        = [(0, "number"), (1, "company")] := by decide +kernel
  have hmem : ∀ asked ∈ [(0, "number"), (1, "company")],
      ∃ errand ∈ (carryOn (world (ofForm kindForm .manual ⟨[], []⟩ none))
        kindEvents).parts.engine.inFlight, (errand.id, errand.worker) = asked := by
    rw [← hflight]
    exact fun asked hasked => List.mem_map.mp hasked
  obtain ⟨errand, hin, hasked⟩ := hmem (0, "number") (by decide)
  obtain ⟨errand', hin', hasked'⟩ := hmem (1, "company") (by decide)
  injection hasked with hid hworker
  injection hasked' with hid' hworker'
  have hsame := h kindForm kindEvents errand errand' kindResults.1 kindResults.2 hind hin hin'
    (by rw [hworker, hworker']; decide)
  rw [hid, hid'] at hsame
  -- the size is there if the kind comes first, and not if it comes last
  have hsize := congrArg (fun v => (Path.read v "size").sameValue (.text "10")) hsame
  revert hsize
  decide +kernel

end Session

end DynamicForms
