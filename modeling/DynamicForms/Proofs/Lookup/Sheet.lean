import DynamicForms.Proofs.Lookup.Requests

/-!
# `DynamicForms.Proofs.Lookup.Sheet` — what concerns one worker

Requests are numbered through all workers, so their numbers depend on what the others ask for in between.
Nothing else does: the sheet of a worker has all that a desk with a journal knows of it but for the
numbers. A request has its place among those of its worker, and is known to be in flight or not and to be
the current one or not.

What is done for a worker turns its sheet into another one that is known from the old one alone, and leaves
the sheets of the others as they are.

## Contents
- `Ledger.requests`, `Ledger.Numbered`, with what keeps it.
- `Slip`, `Ledger.slip`, `Sheet`, `Journal.sheet`.
- `Journal.Turns`: one sheet is turned into another one.
- **Turns.** `turns_quiet`, `turns_giveUp`, `turns_ask`, `turns_land`, `turns_note`, `turns_shut`.
-/

namespace DynamicForms

open Value (Object)

namespace Ledger

/-! ## Numbers -/

/-- All requests that were asked for, in order. -/
def requests (b : Ledger) : List Errand :=
  b.records.filterMap Record.errand?

/-- Requests have numbers of their own, and no other is in flight. -/
structure Numbered (b : Ledger) : Prop where
  /-- No number was given twice. -/
  ids : (b.requests.map (·.id)).Nodup
  /-- The next number is a new one. -/
  id_lt : ∀ {errand}, errand ∈ b.requests → errand.id < b.nextId
  /-- What is in flight was asked for. -/
  mem_requests : ∀ {errand}, errand ∈ b.inFlight → errand ∈ b.requests

variable {b b' : Ledger} {key other requestKey : String} {errand errand' : Errand} {l : Lookup}

theorem asked_eq_filter (b : Ledger) (key : String) :
    b.asked key = b.requests.filter fun errand => errand.worker = key := by
  have hone : Record.asked? key = fun r => (Record.errand? r).filter fun errand => errand.worker = key := by
    funext r
    cases r with
    | asked errand => simp [Record.asked?, Record.errand?, Option.filter]
    | saw _ _ => rfl
    | answered _ _ => rfl
  rw [asked, requests, List.filter_filterMap, hone]

theorem mem_asked_iff : errand ∈ b.asked key ↔ errand ∈ b.requests ∧ errand.worker = key := by
  rw [asked_eq_filter, List.mem_filter, decide_eq_true_iff]

namespace Numbered

theorem eq_of_id (h : b.Numbered) (hin : errand ∈ b.requests) (hin' : errand' ∈ b.requests)
    (hid : errand.id = errand'.id) : errand = errand' :=
  List.inj_on_of_nodup_map h.ids hin hin' hid

theorem nodup_asked (h : b.Numbered) (key : String) : ((b.asked key).map (·.id)).Nodup := by
  rw [asked_eq_filter]
  exact (List.filter_sublist.map _).nodup h.ids

/-- A request of a worker is known by its number. -/
theorem place_inj (h : b.Numbered) {place place' : Nat} (hplace : (b.asked key)[place]? = some errand)
    (hplace' : (b.asked key)[place']? = some errand') (hid : errand.id = errand'.id) :
    place = place' := by
  obtain ⟨hlt, -⟩ := List.getElem_of_getElem? hplace
  refine (List.getElem?_inj (l := (b.asked key).map (·.id)) (by rwa [List.length_map])
    (h.nodup_asked key)).mp ?_
  rw [List.getElem?_map, List.getElem?_map, hplace, hplace', Option.map_some, Option.map_some, hid]

/-- The books stay numbered if nothing is asked for and nothing new is in flight. -/
theorem of_sublist (h : b.Numbered) (hrequests : b'.requests = b.requests)
    (hnext : b'.nextId = b.nextId) (hflight : ∀ {errand}, errand ∈ b'.inFlight → errand ∈ b.inFlight) :
    b'.Numbered where
  ids := by
    rw [hrequests]
    exact h.ids
  id_lt hin := by
    rw [hnext]
    rw [hrequests] at hin
    exact h.id_lt hin
  mem_requests hin := by
    rw [hrequests]
    exact h.mem_requests (hflight hin)

theorem ask (h : b.Numbered) (key requestKey : String) (l : Lookup) :
    (b.ask key requestKey l).Numbered := by
  have hrequests : (b.ask key requestKey l).requests
      = b.requests ++ [b.nextErrand key requestKey l] := by
    simp [requests, Ledger.ask, Record.errand?]
  refine ⟨?_, fun {errand} hin => ?_, fun {errand} hin => ?_⟩
  · rw [hrequests, List.map_append, List.nodup_append]
    refine ⟨h.ids, List.nodup_singleton _, ?_⟩
    intro id hid id' hid'
    obtain ⟨errand, hin, rfl⟩ := List.mem_map.mp hid
    obtain rfl := List.mem_singleton.mp hid'
    exact (h.id_lt hin).ne
  · rw [hrequests, List.mem_append, List.mem_singleton] at hin
    rcases hin with hold | rfl
    · exact (h.id_lt hold).trans (Nat.lt_succ_self _)
    · exact Nat.lt_succ_self _
  · rw [hrequests, List.mem_append]
    exact (List.mem_append.mp hin).imp h.mem_requests id

theorem land (h : b.Numbered) (errand : Errand) (result : LookupResult) :
    (b.land errand result).Numbered :=
  h.of_sublist (by simp [requests, Ledger.land, Ledger.setCurrent, Record.errand?]) rfl List.mem_of_mem_filter

theorem shut (h : b.Numbered) (key : String) : (b.shut key).Numbered :=
  h.of_sublist rfl rfl List.mem_of_mem_filter

end Numbered

end Ledger

/-! ## Sheets -/

/-- A request without its number. -/
structure Slip where
  /-- Its key. -/
  key : String
  /-- Where it goes. -/
  endpoint : String
  /-- What it asks about. -/
  params : Object
  /-- Whether it is in flight. -/
  inFlight : Bool
  /-- Whether it is the current request of its worker. -/
  isCurrent : Bool

/-- A request that is not the current one any more. -/
def Slip.past (slip : Slip) : Slip :=
  { slip with isCurrent := false }

/-- A request that is not in flight any more. -/
def Slip.landed (slip : Slip) : Slip :=
  { slip with inFlight := false }

/-- What is known of a worker, without the numbers of its requests. -/
structure Sheet where
  /-- The worker. -/
  worker : Option Worker
  /-- Its requests, in the order in which they were asked for. -/
  slips : List Slip

/-- A worker without the number of its request. -/
def Worker.unnumbered (w : Worker) : Worker :=
  { w with current := w.current.map fun request => { request with id := 0 } }

namespace Ledger

/-- Whether a request is in flight. -/
def isInFlight (b : Ledger) (id : Nat) : Bool :=
  b.inFlight.any fun errand => errand.id == id

/-- Whether a request is the current one of a worker. -/
def isCurrent (b : Ledger) (key : String) (id : Nat) : Bool :=
  (b.current? key).any fun request => request.id == id

/-- What is known of a request of a worker. -/
def slip (b : Ledger) (key : String) (errand : Errand) : Slip :=
  ⟨errand.key, errand.endpoint, errand.params, b.isInFlight errand.id, b.isCurrent key errand.id⟩

/-- The requests of a worker. -/
def slips (b : Ledger) (key : String) : List Slip :=
  (b.asked key).map (b.slip key)

end Ledger

namespace Journal

/-- What is known of a worker. -/
def sheet (j : Journal) (key : String) : Sheet :=
  ⟨(j.desk.engine.workers.get? key).map Worker.unnumbered, j.ledger.slips key⟩

/-- The sheet of one worker is turned into another one, and the others stay as they are. -/
structure Turns (key : String) (turn : Sheet → Sheet) (j j' : Journal) : Prop where
  /-- The sheet of the worker. -/
  sheet_eq : j'.sheet key = turn (j.sheet key)
  /-- The sheets of the others. -/
  others : ∀ other, other ≠ key → j'.sheet other = j.sheet other
  /-- Their requests, with the numbers. -/
  asked_eq : ∀ other, other ≠ key → j'.ledger.asked other = j.ledger.asked other
  /-- The lookups. -/
  lookup?_eq : j'.ledger.lookup? = j.ledger.lookup?
  /-- The requests are numbered. -/
  numbered : j'.ledger.Numbered
  /-- What is hidden. -/
  hidden_eq : j'.desk.hidden = j.desk.hidden
  /-- The keys of the workers. -/
  keys_eq : j'.desk.engine.workers.keys = j.desk.engine.workers.keys

variable {j j' : Journal} {key other requestKey : String} {f : Worker → Worker} {worker : Worker}
  {errand : Errand} {result : LookupResult} {place : Nat}

/-! ## Turns -/

theorem slips_eq {b b' : Ledger} (hasked : b'.asked key = b.asked key)
    (hflight : ∀ errand ∈ b.asked key, b'.isInFlight errand.id = b.isInFlight errand.id)
    (hcurrent : b'.current? key = b.current? key) : b'.slips key = b.slips key := by
  rw [Ledger.slips, Ledger.slips, hasked]
  refine List.map_congr_left fun errand hin => ?_
  rw [Ledger.slip, Ledger.slip, hflight errand hin, Ledger.isCurrent, Ledger.isCurrent, hcurrent]

/-- The worker under another name is left alone. -/
theorem sheet_changeWorker_of_ne (hne : other ≠ key) (e : Engine) (f : Worker → Worker) :
    ((e.changeWorker key f).workers.get? other).map Worker.unnumbered
      = (e.workers.get? other).map Worker.unnumbered :=
  congrArg _ (Entries.get?_change_of_ne hne e.workers f)

theorem sheet_changeWorker_self (hf : ∀ worker, (f worker).unnumbered = f worker.unnumbered)
    (e : Engine) (key : String) :
    ((e.changeWorker key f).workers.get? key).map Worker.unnumbered
      = ((e.workers.get? key).map Worker.unnumbered).map f := by
  show ((e.workers.change key f).get? key).map _ = _
  rw [Entries.get?_change_self, Option.map_map, Option.map_map]
  exact congrArg (fun g => (e.workers.get? key).map g) (funext hf)

/-- A change of a worker that has nothing to do with its requests. -/
theorem turns_quiet (hn : j.ledger.Numbered) (hlookup : ∀ worker, (f worker).lookup = worker.lookup)
    (hcurrent : ∀ worker, (f worker).current = worker.current)
    (hf : ∀ worker, (f worker).unnumbered = f worker.unnumbered) (key : String) :
    Turns key (fun s => { s with worker := s.worker.map f }) j
      (enginePart.set (j.desk.engine.changeWorker key f) j) := by
  have hledger := ledger_of_quiet hlookup hcurrent j key
  refine ⟨?_, fun other hne => ?_, fun _ _ => by rw [hledger], by rw [hledger],
    by rw [hledger]; exact hn, rfl, Entries.keys_change _ key f⟩
  · rw [sheet, hledger]
    exact congrArg (Sheet.mk · (j.ledger.slips key)) (sheet_changeWorker_self hf j.desk.engine key)
  · rw [sheet, hledger]
    exact congrArg (Sheet.mk · (j.ledger.slips other))
      (sheet_changeWorker_of_ne hne j.desk.engine f)

theorem isCurrent_of_none {b : Ledger} (h : b.current? key = none) (id : Nat) :
    b.isCurrent key id = false := by
  rw [Ledger.isCurrent, h]
  rfl

/-- A worker gives its request up. -/
theorem turns_giveUp (hn : j.ledger.Numbered) (hlookup : ∀ worker, (f worker).lookup = worker.lookup)
    (hcurrent : ∀ worker, (f worker).current = none)
    (hf : ∀ worker, (f worker).unnumbered = f worker.unnumbered) (key : String) :
    Turns key (fun s => ⟨s.worker.map f, s.slips.map Slip.past⟩) j
      (enginePart.set (j.desk.engine.changeWorker key f) j) := by
  have hledger : (enginePart.set (j.desk.engine.changeWorker key f) j).ledger
      = j.ledger.setCurrent key none := by
    rw [ledger_changeWorker hlookup]
    simp only [hcurrent, Option.bind_fun_none]
  refine ⟨?_, fun other hne => ?_, fun _ _ => by rw [hledger]; rfl, by rw [hledger]; rfl, ?_, rfl,
    Entries.keys_change _ key f⟩
  · rw [sheet, hledger]
    refine congrArg₂ Sheet.mk (sheet_changeWorker_self hf j.desk.engine key) ?_
    show (j.ledger.asked key).map _ = ((j.ledger.asked key).map _).map _
    rw [List.map_map]
    refine List.map_congr_left fun errand _ => ?_
    have hnone := isCurrent_of_none (Ledger.current?_setCurrent_self j.ledger key none) errand.id
    rw [Ledger.slip, hnone]
    rfl
  · rw [sheet, hledger]
    exact congrArg₂ Sheet.mk (sheet_changeWorker_of_ne hne j.desk.engine f)
      (slips_eq rfl (fun _ _ => rfl) (Ledger.current?_setCurrent_of_ne hne j.ledger none))
  · rw [hledger]
    exact ⟨hn.ids, hn.id_lt, hn.mem_requests⟩

theorem turns_note (hn : j.ledger.Numbered) {r : Record} (hr : r.errand? = none) (key : String) :
    Turns key id j { j with records := j.records ++ [r] } := by
  have hrequests : ∀ b : Ledger, ({ b with records := b.records ++ [r] } : Ledger).requests = b.requests :=
    fun b => by simp [Ledger.requests, hr]
  have hasked : ∀ other, ({ j with records := j.records ++ [r] } : Journal).ledger.asked other
      = j.ledger.asked other := by
    intro other
    rw [Ledger.asked_eq_filter, Ledger.asked_eq_filter]
    exact congrArg (List.filter _) (hrequests j.ledger)
  have hsheet : ∀ other, ({ j with records := j.records ++ [r] } : Journal).sheet other = j.sheet other :=
    fun other => congrArg (Sheet.mk _) (slips_eq (hasked other) (fun _ _ => rfl) rfl)
  exact ⟨hsheet key, fun other _ => hsheet other, fun other _ => hasked other, rfl,
    hn.of_sublist (hrequests j.ledger) rfl id, rfl, rfl⟩

/-- That the status of a worker changed is no part of any sheet. -/
theorem turns_announce (hn : j.ledger.Numbered) (key : String) :
    Turns key id j (enginePart.set
      { j.desk.engine with events := j.desk.engine.events ++ [key] } j) := by
  have hledger : (enginePart.set
      { j.desk.engine with events := j.desk.engine.events ++ [key] } j).ledger = j.ledger := by
    show (⟨_, _, _, _, _⟩ : Ledger) = ⟨_, _, _, _, _⟩
    rw [Ledger.mk.injEq]
    exact ⟨records_set (Nat.le_refl _), rfl, rfl, rfl, rfl⟩
  have hsheet : ∀ other, (enginePart.set
      { j.desk.engine with events := j.desk.engine.events ++ [key] } j).sheet other = j.sheet other := by
    intro other
    rw [sheet, hledger]
    rfl
  exact ⟨hsheet key, fun other _ => hsheet other, fun _ _ => by rw [hledger], by rw [hledger],
    by rw [hledger]; exact hn, rfl, rfl⟩

/-- A worker asks for an answer. -/
theorem turns_ask (hn : j.ledger.Numbered) (hworker : j.desk.engine.workers.get? key = some worker)
    (requestKey : String) :
    Turns key
      (fun s => ⟨s.worker.map fun w => { w with current := some ⟨0, requestKey, false⟩ },
        s.slips.map Slip.past
          ++ [⟨requestKey, worker.lookup.endpoint, keyParams requestKey, true, true⟩]⟩) j
      (enginePart.set (j.desk.engine.ask key worker requestKey) j) := by
  let next := j.ledger.nextErrand key requestKey worker.lookup
  let asks (w : Worker) : Worker := { w with current := some ⟨next.id, requestKey, false⟩ }
  have hledger := ledger_ask hworker requestKey
  -- the new number is that of no earlier request
  have hnew : ∀ {errand : Errand}, errand ∈ j.ledger.requests → (next.id == errand.id) = false :=
    fun hin => beq_false_of_ne (hn.id_lt hin).ne'
  have hflight : ∀ {errand : Errand}, errand ∈ j.ledger.requests →
      (j.ledger.ask key requestKey worker.lookup).isInFlight errand.id
        = j.ledger.isInFlight errand.id := by
    intro errand hin
    show (j.ledger.inFlight ++ [next]).any _ = _
    rw [List.any_append, List.any_cons, List.any_nil, hnew hin, Bool.or_false, Bool.or_false]
    rfl
  refine ⟨?_, fun other hne => ?_, fun other hne => by rw [hledger, Ledger.asked_ask_of_ne hne],
    by rw [hledger]; rfl, ?_, rfl, Entries.keys_change _ key asks⟩
  · rw [sheet, hledger]
    refine congrArg₂ Sheet.mk ?_ ?_
    · show ((j.desk.engine.workers.change key asks).get? key).map _ = _
      rw [Entries.get?_change_self, Option.map_map, sheet, Option.map_map]
      rfl
    · have hcurrent : (j.ledger.ask key requestKey worker.lookup).current? key
          = some ⟨next.id, requestKey, false⟩ := Ledger.current?_setCurrent_self _ _ _
      show ((j.ledger.ask key requestKey worker.lookup).asked key).map _
        = ((j.ledger.asked key).map _).map _ ++ _
      rw [Ledger.asked_ask_self, List.map_append, List.map_map]
      refine congrArg₂ (· ++ ·) (List.map_congr_left fun errand hin => ?_) ?_
      · have hold := (Ledger.mem_asked_iff.mp hin).1
        rw [Ledger.slip, hflight hold, Ledger.isCurrent, hcurrent, Option.any_some, hnew hold]
        rfl
      · have hflies : (j.ledger.ask key requestKey worker.lookup).isInFlight next.id = true := by
          show (j.ledger.inFlight ++ [next]).any _ = _
          rw [List.any_append, List.any_cons, beq_self_eq_true, Bool.true_or, Bool.or_true]
        show [Ledger.slip _ key next] = _
        rw [Ledger.slip, hflies, Ledger.isCurrent, hcurrent, Option.any_some, beq_self_eq_true]
        rfl
  · rw [sheet, hledger]
    refine congrArg₂ Sheet.mk (sheet_changeWorker_of_ne hne j.desk.engine asks)
      (slips_eq (Ledger.asked_ask_of_ne hne _ _ _) (fun errand hin => ?_)
        (Ledger.current?_setCurrent_of_ne hne _ _))
    exact hflight (Ledger.mem_asked_iff.mp hin).1
  · rw [hledger]
    exact hn.ask key requestKey worker.lookup

/-- What an answer does to the worker that takes note of it. -/
def noted (isCurrent : Bool) (w : Worker) : Worker :=
  { w with current := w.current.map fun request =>
      if isCurrent then { request with answered := true } else request }

theorem unnumbered_noteAnswered (w : Worker) (id : Nat) :
    (w.noteAnswered id).unnumbered = noted (w.isCurrent id) w.unnumbered := by
  unfold Worker.noteAnswered Worker.unnumbered noted Worker.isCurrent
  cases hcurrent : w.current with
  | none => rfl
  | some request =>
    by_cases hid : request.id = id
    · simp [hid]
    · simp [hid]

theorem isCurrent_of_worker (hworker : j.desk.engine.workers.get? key = some worker) (id : Nat) :
    j.ledger.isCurrent key id = worker.isCurrent id := by
  rw [Ledger.isCurrent, ledger_current? hworker, Worker.isCurrent]
  cases worker.current <;> rfl

theorem isInFlight_land (b : Ledger) (errand : Errand) (result : LookupResult) (id : Nat) :
    (b.land errand result).isInFlight id = (b.isInFlight id && id != errand.id) := by
  show (b.inFlight.filter fun other => other.id != errand.id).any (fun other => other.id == id) = _
  rw [List.any_filter, Ledger.isInFlight]
  by_cases hid : id = errand.id
  · subst hid
    rw [bne_self_eq_false, Bool.and_false, List.any_eq_false]
    intro other _
    cases hother : other.id == errand.id <;> simp [bne, hother]
  · rw [bne_iff_ne.mpr hid, Bool.and_true]
    refine congrArg (List.any b.inFlight) (funext fun other => ?_)
    by_cases hother : other.id = id
    · rw [hother, bne_iff_ne.mpr hid, Bool.true_and]
    · rw [beq_false_of_ne hother, Bool.and_false]

theorem isCurrent_land (b : Ledger) (errand : Errand) (result : LookupResult) (id : Nat) :
    (b.land errand result).isCurrent errand.worker id = b.isCurrent errand.worker id := by
  have hcurrent : (b.land errand result).current? errand.worker
      = (b.current? errand.worker).map (Ledger.marked errand.id) :=
    Ledger.current?_setCurrent_self _ _ _
  rw [Ledger.isCurrent, hcurrent, Ledger.isCurrent]
  cases b.current? errand.worker with
  | none => rfl
  | some request => exact congrArg (· == id) (Ledger.marked_id errand.id request)

/-- The answer to a request of a worker is written down and lands. -/
theorem turns_land (hn : j.ledger.Numbered) (hplace : (j.ledger.asked key)[place]? = some errand)
    (result : LookupResult) :
    Turns key
      (fun s => ⟨s.worker.map (noted (s.slips[place]?.any (·.isCurrent))),
        s.slips.modify place Slip.landed⟩) j
      (enginePart.set (j.desk.engine.land errand)
        { j with records := j.records ++ [.answered errand.id result] }) := by
  have hmem : errand ∈ j.ledger.asked key := List.mem_of_getElem? hplace
  obtain ⟨hrequest, rfl⟩ := Ledger.mem_asked_iff.mp hmem
  have hledger : (enginePart.set (j.desk.engine.land errand)
      { j with records := j.records ++ [.answered errand.id result] }).ledger
        = j.ledger.land errand result := ledger_land { j with records := _ } errand
  let notes (w : Worker) : Worker := w.noteAnswered errand.id
  have hflight := isInFlight_land j.ledger errand result
  refine ⟨?_, fun other hne => ?_, fun _ _ => by rw [hledger, Ledger.asked_land],
    by rw [hledger]; rfl, ?_, rfl, Entries.keys_change _ errand.worker notes⟩
  · rw [sheet, hledger]
    have hslip : (j.ledger.slips errand.worker)[place]?
        = some (j.ledger.slip errand.worker errand) := by
      rw [Ledger.slips, List.getElem?_map, hplace]
      rfl
    refine congrArg₂ Sheet.mk ?_ (List.ext_getElem? fun i => ?_)
    · show ((j.desk.engine.workers.change errand.worker notes).get? errand.worker).map _ = _
      rw [Entries.get?_change_self, sheet, hslip]
      cases hworker : j.desk.engine.workers.get? errand.worker with
      | none => rfl
      | some worker =>
        show some (worker.noteAnswered errand.id).unnumbered = some (noted _ worker.unnumbered)
        rw [unnumbered_noteAnswered, ← isCurrent_of_worker hworker]
        rfl
    · show ((Ledger.asked _ errand.worker).map _)[i]?
        = ((j.ledger.slips errand.worker).modify place Slip.landed)[i]?
      rw [Ledger.asked_land, List.getElem?_modify, Ledger.slips, List.getElem?_map,
        List.getElem?_map]
      cases hi : (j.ledger.asked errand.worker)[i]? with
      | none => rfl
      | some found =>
        show some (Ledger.slip _ _ found) = some (if place = i then _ else _)
        rw [Ledger.slip, hflight, isCurrent_land]
        by_cases hsame : place = i
        · -- the request itself
          subst hsame
          obtain rfl : errand = found := Option.some.inj (hplace.symm.trans hi)
          rw [if_pos rfl, bne_self_eq_false, Bool.and_false]
          rfl
        · have hne : found.id ≠ errand.id := fun hid => hsame (hn.place_inj hplace hi hid.symm)
          rw [if_neg hsame, bne_iff_ne.mpr hne, Bool.and_true]
          rfl
  · rw [sheet, hledger]
    refine congrArg₂ Sheet.mk (sheet_changeWorker_of_ne hne j.desk.engine notes)
      (slips_eq (Ledger.asked_land ..) (fun found hin => ?_) (Ledger.current?_setCurrent_of_ne hne _ _))
    obtain ⟨hfound, rfl⟩ := Ledger.mem_asked_iff.mp hin
    have hid : found.id ≠ errand.id := fun hid => hne (by rw [hn.eq_of_id hfound hrequest hid])
    rw [hflight, bne_iff_ne.mpr hid, Bool.and_true]
  · rw [hledger]
    exact hn.land errand result

/-- A worker that is closed gives up its request, and what it asked for is called off. -/
theorem turns_shut (hn : j.ledger.Numbered) (hworker : j.desk.engine.workers.get? key = some worker) :
    Turns key
      (fun s => ⟨s.worker.map fun w => { w with ticket := none, current := none },
        s.slips.map fun slip => slip.past.landed⟩) j (shut j key) := by
  let closes (w : Worker) : Worker := { w with ticket := none, current := none }
  have hledger := ledger_shut hworker
  have hflight : ∀ id, (j.ledger.shut key).isInFlight id
      = j.ledger.inFlight.any fun errand => errand.worker != key && errand.id == id := fun id =>
    List.any_filter
  refine ⟨?_, fun other hne => ?_, fun _ _ => by rw [hledger]; rfl, by rw [hledger]; rfl,
    by rw [hledger]; exact hn.shut key, rfl, Entries.keys_change _ key closes⟩
  · rw [sheet, hledger]
    refine congrArg₂ Sheet.mk (sheet_changeWorker_self (f := closes) (fun _ => rfl) j.desk.engine key) ?_
    show (j.ledger.asked key).map _ = ((j.ledger.asked key).map _).map _
    rw [List.map_map]
    refine List.map_congr_left fun errand hin => ?_
    obtain ⟨hrequest, hmine⟩ := Ledger.mem_asked_iff.mp hin
    -- whatever has the number of a request of the worker is that request
    have hgone : (j.ledger.shut key).isInFlight errand.id = false := by
      rw [hflight, List.any_eq_false]
      intro other hother
      rw [Bool.and_eq_true, bne_iff_ne, beq_iff_eq]
      rintro ⟨hworker', hid⟩
      rw [hn.eq_of_id (hn.mem_requests hother) hrequest hid] at hworker'
      exact hworker' hmine
    have hnone : (j.ledger.shut key).current? key = none := Ledger.current?_setCurrent_self _ _ _
    rw [Ledger.slip, hgone, isCurrent_of_none hnone]
    rfl
  · rw [sheet, hledger]
    refine congrArg₂ Sheet.mk (sheet_changeWorker_of_ne hne j.desk.engine closes)
      (slips_eq rfl (fun errand hin => ?_) (Ledger.current?_setCurrent_of_ne hne _ _))
    obtain ⟨hrequest, hmine⟩ := Ledger.mem_asked_iff.mp hin
    rw [hflight, Ledger.isInFlight, Bool.eq_iff_iff, List.any_eq_true, List.any_eq_true]
    refine exists_congr fun found => and_congr_right fun hfound => ?_
    rw [Bool.and_eq_true, bne_iff_ne, beq_iff_eq, and_iff_right_iff_imp]
    intro hid hworker'
    rw [hn.eq_of_id (hn.mem_requests hfound) hrequest hid] at hworker'
    exact hne (hmine.symm.trans hworker')

end Journal

end DynamicForms
