import DynamicForms.Proofs.Lookup.Journal
import Mathlib.Data.List.Destutter
import Mathlib.Data.List.ReduceOption
import Mathlib.Logic.Function.Basic
import Mathlib.Logic.Relation

/-!
# `DynamicForms.Proofs.Lookup.Ledger` — what can happen to requests

Of all that goes on at a desk only little concerns requests. The ledger of a desk has just that: the
journal, the requests in flight, the next number, and for each worker its lookup and its current request.
It changes in five ways. A worker looks at the form and its lookup is not ready, so its current request
is given up; or it is ready under the key of the current request, so nothing happens; or it is ready under
another key, so a request goes out. A request in flight is answered. Or a worker is closed.

Whatever can be reached in these ways has sound books: requests have numbers of their own and were asked
for where their lookup says, the current request of a worker is the one that it asked for last, and it is
marked as answered exactly if an answer to it came in. And the requests of a worker are what it has seen,
without repetitions.

## Contents
- `Ledger`, `Journal.ledger`, `Ledger.Look`, `Ledger.Step`.
- **Lists.** `destutter_concat`.
- `Ledger.Sound`, `Ledger.Step.sound`.
- `Ledger.Traced`, `Ledger.Untouched`, `Ledger.Step.traced`.
- `Ledger.Settled`, `Ledger.Step.settled`: after an answer.
- `Ledger.InOrder`, `Ledger.InOrder.of_reaches`.
-/

namespace DynamicForms

/-- What a desk with a journal has to do with requests. -/
structure Ledger where
  /-- The journal. -/
  records : List Record
  /-- The requests in flight. -/
  inFlight : List Errand
  /-- The number of the next request. -/
  nextId : Nat
  /-- The lookups of the workers. -/
  lookup? : String → Option Lookup
  /-- The current requests of the workers. -/
  current? : String → Option CurrentRequest

/-- The ledger of a desk with a journal. -/
def Journal.ledger (j : Journal) : Ledger where
  records := j.records
  inFlight := j.desk.engine.inFlight
  nextId := j.desk.engine.nextId
  lookup? key := (j.desk.engine.workers.get? key).map (·.lookup)
  current? key := (j.desk.engine.workers.get? key).bind (·.current)

namespace Ledger

/-- What a worker has seen, in order. -/
def seen (b : Ledger) (key : String) : List (Option String) :=
  b.records.filterMap (Record.saw? key)

/-- What a worker has asked for, in order. -/
def asked (b : Ledger) (key : String) : List Errand :=
  b.records.filterMap (Record.asked? key)

/-- The current requests after that of one worker has changed. -/
def setCurrent (b : Ledger) (key : String) (current : Option CurrentRequest) : Ledger :=
  { b with current? := Function.update b.current? key current }

/-- A worker looks at the form. -/
def sight (b : Ledger) (key : String) (found : Option String) : Ledger :=
  { b with records := b.records ++ [.saw key found] }

/-- The request that a worker would ask for next. -/
def nextErrand (b : Ledger) (key requestKey : String) (l : Lookup) : Errand :=
  ⟨b.nextId, key, requestKey, l.endpoint, keyParams requestKey⟩

/-- A worker asks for an answer. -/
def ask (b : Ledger) (key requestKey : String) (l : Lookup) : Ledger :=
  { b.setCurrent key (some ⟨b.nextId, requestKey, false⟩) with
    records := b.records ++ [.asked (b.nextErrand key requestKey l)]
    inFlight := b.inFlight ++ [b.nextErrand key requestKey l]
    nextId := b.nextId + 1 }

/-- A current request after an answer with a number came in. -/
def marked (id : Nat) (request : CurrentRequest) : CurrentRequest :=
  if request.id = id then { request with answered := true } else request

@[simp] theorem marked_id (id : Nat) (request : CurrentRequest) :
    (marked id request).id = request.id := by
  unfold marked
  split <;> rfl

@[simp] theorem marked_key (id : Nat) (request : CurrentRequest) :
    (marked id request).key = request.key := by
  unfold marked
  split <;> rfl

/-- A request is answered. -/
def land (b : Ledger) (errand : Errand) (result : LookupResult) : Ledger :=
  { b.setCurrent errand.worker ((b.current? errand.worker).map (marked errand.id)) with
    records := b.records ++ [.answered errand.id result]
    inFlight := b.inFlight.filter fun other => other.id != errand.id }

/-- A worker is closed. -/
def shut (b : Ledger) (key : String) : Ledger :=
  { b.setCurrent key none with
    inFlight := b.inFlight.filter fun errand => errand.worker != key }

/-- What a look at the form does. -/
inductive Look : Ledger → Ledger → Prop where
  /-- The lookup is not ready. -/
  | rest (b : Ledger) (key : String) : Look b ((b.setCurrent key none).sight key none)
  /-- It is ready under the key of the current request. -/
  | stay {b : Ledger} {key : String} {request : CurrentRequest}
      (hcurrent : b.current? key = some request) : Look b (b.sight key (some request.key))
  /-- It is ready under another key. -/
  | ask {b : Ledger} {key requestKey : String} {l : Lookup} (hlookup : b.lookup? key = some l)
      (hneeds : l.dependsOn ≠ []) (hnew : (b.current? key).map (·.key) ≠ some requestKey) :
      Look b ((b.sight key (some requestKey)).ask key requestKey l)

/-- What can happen to requests, if some workers may be closed. -/
inductive Step (closed : String → Prop) : Ledger → Ledger → Prop where
  /-- A worker looks at the form. -/
  | look {b b' : Ledger} (h : Look b b') : Step closed b b'
  /-- A request in flight is answered. -/
  | land {b : Ledger} {errand : Errand} (hin : errand ∈ b.inFlight) (result : LookupResult) :
      Step closed b (b.land errand result)
  /-- A worker is closed. -/
  | shut (b : Ledger) {key : String} (hclosed : closed key) : Step closed b (b.shut key)

end Ledger

/-! ## Lists -/

theorem destutter'_concat {α : Type} [DecidableEq α] (b a : α) (l : List α) :
    (l ++ [a]).destutter' (· ≠ ·) b =
      if (b :: l).getLast? = some a then l.destutter' (· ≠ ·) b
      else l.destutter' (· ≠ ·) b ++ [a] := by
  induction l generalizing b with
  | nil => by_cases h : b = a <;> simp [h]
  | cons c l ih =>
    rw [List.cons_append, List.getLast?_cons_cons]
    by_cases h : b = c
    · subst h
      rw [List.destutter'_cons_neg _ (not_not.mpr rfl), List.destutter'_cons_neg _ (not_not.mpr rfl)]
      exact ih b
    · rw [List.destutter'_cons_pos _ h, List.destutter'_cons_pos _ h, ih c]
      split
      · rfl
      · rfl

/-- One more element is a repetition if it is the last one again. -/
theorem destutter_concat {α : Type} [DecidableEq α] (l : List α) (a : α) :
    (l ++ [a]).destutter (· ≠ ·) =
      if l.getLast? = some a then l.destutter (· ≠ ·) else l.destutter (· ≠ ·) ++ [a] := by
  cases l with
  | nil => rfl
  | cons b l => exact destutter'_concat b a l

namespace Ledger

variable {b b' : Ledger} {key other requestKey : String} {errand : Errand} {result : LookupResult}
  {request : CurrentRequest} {l : Lookup} {closed : String → Prop}

theorem mem_asked : errand ∈ b.asked key ↔ .asked errand ∈ b.records ∧ errand.worker = key := by
  simp only [asked, List.mem_filterMap]
  constructor
  · rintro ⟨r, hr, hasked⟩
    cases r with
    | asked e =>
      simp only [Record.asked?, Option.ite_none_right_eq_some, Option.some.injEq] at hasked
      obtain ⟨hworker, rfl⟩ := hasked
      exact ⟨hr, hworker⟩
    | saw _ _ => cases hasked
    | answered _ _ => cases hasked
  · rintro ⟨hr, hworker⟩
    exact ⟨.asked errand, hr, by simp [Record.asked?, hworker]⟩

theorem current?_setCurrent_self (b : Ledger) (key : String) (current : Option CurrentRequest) :
    (b.setCurrent key current).current? key = current := Function.update_self _ _ _

theorem current?_setCurrent_of_ne (h : other ≠ key) (b : Ledger) (current : Option CurrentRequest) :
    (b.setCurrent key current).current? other = b.current? other := Function.update_of_ne h _ _

/-- What a current request is after that of one worker has changed. -/
theorem setCurrent_cases {current : Option CurrentRequest}
    (h : (b.setCurrent key current).current? other = some request) :
    other = key ∧ current = some request ∨ other ≠ key ∧ b.current? other = some request := by
  by_cases ho : other = key
  · subst ho
    rw [current?_setCurrent_self] at h
    exact Or.inl ⟨rfl, h⟩
  · rw [current?_setCurrent_of_ne ho] at h
    exact Or.inr ⟨ho, h⟩

theorem current?_of_giveUp (h : (b.setCurrent key none).current? other = some request) :
    b.current? other = some request := by
  rcases setCurrent_cases h with ⟨-, hnone⟩ | ⟨-, hold⟩
  · cases hnone
  · exact hold

theorem asked_ask_self (b : Ledger) (key requestKey : String) (l : Lookup) :
    (b.ask key requestKey l).asked key = b.asked key ++ [b.nextErrand key requestKey l] := by
  simp [asked, ask, nextErrand, Record.asked?]

theorem asked_ask_of_ne (h : other ≠ key) (b : Ledger) (requestKey : String) (l : Lookup) :
    (b.ask key requestKey l).asked other = b.asked other := by
  simp [asked, ask, nextErrand, Record.asked?, h.symm]

theorem mem_asked_ask (h : .asked errand ∈ (b.ask key requestKey l).records) :
    .asked errand ∈ b.records ∨ errand = b.nextErrand key requestKey l := by
  simpa [ask] using h

theorem mem_answered_ask {id : Nat}
    (h : .answered id result ∈ (b.ask key requestKey l).records) :
    .answered id result ∈ b.records := by
  simpa [ask] using h

theorem asked_land (b : Ledger) (errand : Errand) (result : LookupResult) (key : String) :
    (b.land errand result).asked key = b.asked key := by
  simp [asked, land, Record.asked?]

theorem mem_asked_land {other : Errand} (h : .asked other ∈ (b.land errand result).records) :
    .asked other ∈ b.records := by
  simpa [land] using h

theorem mem_answered_land {id : Nat} {found : LookupResult} :
    .answered id found ∈ (b.land errand result).records ↔
      .answered id found ∈ b.records ∨ id = errand.id ∧ found = result := by
  simp [land]

/-- What a current request is after an answer came in. -/
theorem land_cases (h : (b.land errand result).current? key = some request) :
    (key = errand.worker ∧ ∃ old, b.current? key = some old ∧ request = marked errand.id old) ∨
      key ≠ errand.worker ∧ b.current? key = some request := by
  rcases setCurrent_cases (b := b) h with ⟨rfl, hmarked⟩ | hother
  · obtain ⟨old, hold, rfl⟩ := Option.map_eq_some_iff.mp hmarked
    exact Or.inl ⟨rfl, old, hold, rfl⟩
  · exact Or.inr hother

/-! ## Sound books -/

/-- The books on requests are sound. -/
structure Sound (b : Ledger) : Prop where
  /-- What is in flight was asked for. -/
  asked_of_inFlight : ∀ {errand}, errand ∈ b.inFlight → .asked errand ∈ b.records
  /-- The next number is a new one. -/
  asked_lt : ∀ {errand}, .asked errand ∈ b.records → errand.id < b.nextId
  /-- No number was given twice. -/
  asked_inj : ∀ {errand errand'}, .asked errand ∈ b.records → .asked errand' ∈ b.records →
    errand.id = errand'.id → errand = errand'
  /-- A request goes where the lookup says, with the parameters that its key is the document of. -/
  placed : ∀ {errand}, .asked errand ∈ b.records → ∃ l, b.lookup? errand.worker = some l ∧
    l.dependsOn ≠ [] ∧ errand.endpoint = l.endpoint ∧ errand.params = keyParams errand.key
  /-- Answers are answers to numbered requests. -/
  answered_lt : ∀ {id result}, .answered id result ∈ b.records → id < b.nextId
  /-- What was answered is not in flight. -/
  landed : ∀ {id result errand}, .answered id result ∈ b.records → errand ∈ b.inFlight →
    errand.id ≠ id
  /-- Nothing was answered twice. -/
  answered_once : ∀ {id result result'}, .answered id result ∈ b.records →
    .answered id result' ∈ b.records → result = result'
  /-- The current request of a worker is the last one that it asked for. -/
  current_last : ∀ {key request}, b.current? key = some request →
    ∃ errand, (b.asked key).getLast? = some errand ∧ errand.id = request.id ∧
      errand.key = request.key
  /-- It is marked as answered if it was. -/
  answered_iff : ∀ {key request}, b.current? key = some request →
    (request.answered = true ↔ ∃ result, .answered request.id result ∈ b.records)

theorem Sound.exists_asked (h : b.Sound) (hcurrent : b.current? key = some request) :
    ∃ errand, .asked errand ∈ b.records ∧ errand.worker = key ∧ errand.id = request.id := by
  obtain ⟨errand, hlast, hid, -⟩ := h.current_last hcurrent
  obtain ⟨hasked, hworker⟩ := mem_asked.mp (List.mem_of_getLast? hlast)
  exact ⟨errand, hasked, hworker, hid⟩

/-- Only the current request of its own worker has the number of a request. -/
theorem Sound.id_ne (h : b.Sound) (hasked : .asked errand ∈ b.records)
    (hne : key ≠ errand.worker) (hcurrent : b.current? key = some request) :
    request.id ≠ errand.id := by
  obtain ⟨other, hother, hworker, hid⟩ := h.exists_asked hcurrent
  intro hsame
  obtain rfl : other = errand := h.asked_inj hother hasked (hid.trans hsame)
  exact hne hworker.symm

theorem Sound.sight (h : b.Sound) (key : String) (found : Option String) :
    (b.sight key found).Sound where
  asked_of_inFlight hin := List.mem_append_left _ (h.asked_of_inFlight hin)
  asked_lt hr := h.asked_lt (by simpa [Ledger.sight] using hr)
  asked_inj hr hr' := h.asked_inj (by simpa [Ledger.sight] using hr)
    (by simpa [Ledger.sight] using hr')
  placed hr := h.placed (by simpa [Ledger.sight] using hr)
  answered_lt hr := h.answered_lt (by simpa [Ledger.sight] using hr)
  landed hr hin := h.landed (by simpa [Ledger.sight] using hr) hin
  answered_once hr hr' := h.answered_once (by simpa [Ledger.sight] using hr)
    (by simpa [Ledger.sight] using hr')
  current_last hcurrent := by
    simpa [asked, Ledger.sight, Record.asked?] using h.current_last hcurrent
  answered_iff hcurrent := by
    simpa [Ledger.sight] using h.answered_iff hcurrent

/-- A worker may give up its request. -/
theorem Sound.giveUp (h : b.Sound) (key : String) : (b.setCurrent key none).Sound where
  asked_of_inFlight := h.asked_of_inFlight
  asked_lt := h.asked_lt
  asked_inj := h.asked_inj
  placed := h.placed
  answered_lt := h.answered_lt
  landed := h.landed
  answered_once := h.answered_once
  current_last hcurrent := h.current_last (current?_of_giveUp hcurrent)
  answered_iff hcurrent := h.answered_iff (current?_of_giveUp hcurrent)

/-- The new request gets a number that nothing else has. -/
theorem Sound.ask (h : b.Sound) (hlookup : b.lookup? key = some l) (hneeds : l.dependsOn ≠ [])
    (requestKey : String) : (b.ask key requestKey l).Sound where
  asked_of_inFlight {errand} hin := by
    rcases List.mem_append.mp hin with hold | hnew
    · exact List.mem_append_left _ (h.asked_of_inFlight hold)
    · rw [List.mem_singleton.mp hnew]
      exact List.mem_append_right _ List.mem_cons_self
  asked_lt {errand} hr := by
    show errand.id < b.nextId + 1
    rcases mem_asked_ask hr with hold | rfl
    · exact Nat.lt_succ_of_lt (h.asked_lt hold)
    · exact Nat.lt_succ_self _
  asked_inj {errand errand'} hr hr' hsame := by
    -- numbers given before are less than the new one
    rcases mem_asked_ask hr with hold | rfl
    · rcases mem_asked_ask hr' with hold' | rfl
      · exact h.asked_inj hold hold' hsame
      · exact absurd hsame (Nat.ne_of_lt (h.asked_lt hold))
    · rcases mem_asked_ask hr' with hold' | rfl
      · exact absurd hsame.symm (Nat.ne_of_lt (h.asked_lt hold'))
      · rfl
  placed {errand} hr := by
    rcases mem_asked_ask hr with hold | rfl
    · exact h.placed hold
    · exact ⟨l, hlookup, hneeds, rfl, rfl⟩
  answered_lt hr := Nat.lt_succ_of_lt (h.answered_lt (mem_answered_ask hr))
  landed {id result errand} hr hin := by
    rcases List.mem_append.mp hin with hold | hnew
    · exact h.landed (mem_answered_ask hr) hold
    · rw [List.mem_singleton.mp hnew]
      exact (Nat.ne_of_lt (h.answered_lt (mem_answered_ask hr))).symm
  answered_once hr hr' := h.answered_once (mem_answered_ask hr) (mem_answered_ask hr')
  current_last {other request} hcurrent := by
    rcases setCurrent_cases (b := b) hcurrent with ⟨rfl, hnew⟩ | ⟨ho, hold⟩
    · cases hnew
      exact ⟨_, by rw [asked_ask_self, List.getLast?_concat], rfl, rfl⟩
    · rw [asked_ask_of_ne ho]
      exact h.current_last hold
  answered_iff {other request} hcurrent := by
    rcases setCurrent_cases (b := b) hcurrent with ⟨rfl, hnew⟩ | ⟨ho, hold⟩
    · cases hnew
      refine ⟨fun hanswered => (Bool.false_ne_true hanswered).elim, fun ⟨result, hr⟩ => ?_⟩
      exact absurd (h.answered_lt (mem_answered_ask hr)) (Nat.lt_irrefl _)
    · rw [h.answered_iff hold]
      exact exists_congr fun result => ⟨fun hr => List.mem_append_left _ hr, mem_answered_ask⟩

/-- An answer marks the current request of its worker, if it is the answer to it. -/
theorem Sound.land (h : b.Sound) (hin : errand ∈ b.inFlight) (result : LookupResult) :
    (b.land errand result).Sound where
  asked_of_inFlight hother :=
    List.mem_append_left _ (h.asked_of_inFlight (List.mem_of_mem_filter hother))
  asked_lt hr := h.asked_lt (mem_asked_land hr)
  asked_inj hr hr' := h.asked_inj (mem_asked_land hr) (mem_asked_land hr')
  placed hr := h.placed (mem_asked_land hr)
  answered_lt {id found} hr := by
    rcases mem_answered_land.mp hr with hold | ⟨rfl, -⟩
    · exact h.answered_lt hold
    · exact h.asked_lt (h.asked_of_inFlight hin)
  landed {id found other} hr hother := by
    obtain ⟨hother, hne⟩ := List.mem_filter.mp hother
    rcases mem_answered_land.mp hr with hold | ⟨rfl, -⟩
    · exact h.landed hold hother
    · simpa using hne
  answered_once {id first second} hr hr' := by
    -- what is in flight has not been answered before
    rcases mem_answered_land.mp hr with hold | ⟨rfl, rfl⟩
    · rcases mem_answered_land.mp hr' with hold' | ⟨rfl, rfl⟩
      · exact h.answered_once hold hold'
      · exact absurd rfl (h.landed hold hin)
    · rcases mem_answered_land.mp hr' with hold' | ⟨-, rfl⟩
      · exact absurd rfl (h.landed hold' hin)
      · rfl
  current_last {key request} hcurrent := by
    rw [asked_land]
    rcases land_cases hcurrent with ⟨-, old, hold, rfl⟩ | ⟨-, hold⟩
    · rw [marked_id, marked_key]
      exact h.current_last hold
    · exact h.current_last hold
  answered_iff {key request} hcurrent := by
    -- the answer changes nothing about requests with other numbers
    have hother : ∀ {id}, id ≠ errand.id → ((∃ found, .answered id found ∈ b.records) ↔
        ∃ found, .answered id found ∈ (b.land errand result).records) := by
      intro id hne
      refine exists_congr fun found => ?_
      rw [mem_answered_land, or_iff_left fun hnew => hne hnew.1]
    rcases land_cases hcurrent with ⟨-, old, hold, rfl⟩ | ⟨hk, hold⟩
    · rw [marked_id]
      by_cases hid : old.id = errand.id
      · refine ⟨fun _ => ⟨result, mem_answered_land.mpr (Or.inr ⟨hid, rfl⟩)⟩, fun _ => ?_⟩
        simp [marked, hid]
      · rw [← hother hid, marked, if_neg hid]
        exact h.answered_iff hold
    · rw [← hother (h.id_ne (h.asked_of_inFlight hin) hk hold)]
      exact h.answered_iff hold

/-- A worker that is closed gives up its request, and nothing goes out. -/
theorem Sound.shut (h : b.Sound) (key : String) : (b.shut key).Sound where
  asked_of_inFlight hin := h.asked_of_inFlight (List.mem_of_mem_filter hin)
  asked_lt := h.asked_lt
  asked_inj := h.asked_inj
  placed := h.placed
  answered_lt := h.answered_lt
  landed hr hin := h.landed hr (List.mem_of_mem_filter hin)
  answered_once := h.answered_once
  current_last := (h.giveUp key).current_last
  answered_iff := (h.giveUp key).answered_iff

theorem Look.sound (hstep : Look b b') (h : b.Sound) : b'.Sound := by
  cases hstep with
  | rest key => exact (h.giveUp key).sight key none
  | stay hcurrent => exact h.sight _ _
  | ask hlookup hneeds hnew => exact (h.sight _ _).ask hlookup hneeds _

/-- **The books stay sound.** -/
theorem Step.sound (hstep : Step closed b b') (h : b.Sound) : b'.Sound := by
  cases hstep with
  | look hlook => exact hlook.sound h
  | land hin result => exact h.land hin result
  | shut hclosed => exact h.shut _

/-! ## What was seen and what was asked for -/

/-- What a worker should ask for: the keys that it has seen, without repetitions. Whenever its lookup was
not ready something else was seen, so that the same key may come again. -/
def due (b : Ledger) (key : String) : List String :=
  ((b.seen key).destutter (· ≠ ·)).reduceOption

/-- The requests of workers that were not closed are what they have seen. -/
structure Traced (closed : String → Prop) (b : Ledger) : Prop where
  /-- What a worker has asked for. -/
  keys_eq : ∀ {key}, ¬ closed key → (b.asked key).map (·.key) = b.due key
  /-- Its current request is about what it has seen last. -/
  last_eq : ∀ {key}, ¬ closed key → (b.current? key).map (·.key) = (b.seen key).getLast?.join

theorem seen_sight_self (b : Ledger) (key : String) (found : Option String) :
    (b.sight key found).seen key = b.seen key ++ [found] := by
  simp [seen, sight, Record.saw?]

theorem seen_sight_of_ne (h : other ≠ key) (b : Ledger) (found : Option String) :
    (b.sight key found).seen other = b.seen other := by
  simp [seen, sight, Record.saw?, h.symm]

theorem asked_sight (b : Ledger) (key : String) (found : Option String) (other : String) :
    (b.sight key found).asked other = b.asked other := by
  simp [asked, sight, Record.asked?]

theorem seen_ask (b : Ledger) (key requestKey : String) (l : Lookup) (other : String) :
    (b.ask key requestKey l).seen other = b.seen other := by
  simp [seen, ask, Record.saw?]

theorem due_congr (h : b'.seen key = b.seen key) : b'.due key = b.due key := by
  rw [due, due, h]

/-- A look while the lookup is not ready asks for nothing. -/
theorem due_sight_none (b : Ledger) (key : String) : (b.sight key none).due key = b.due key := by
  rw [due, due, seen_sight_self, destutter_concat]
  split
  · rfl
  · rw [List.reduceOption_append]
    exact List.append_nil _

/-- A look under another key than the last one asks for it. -/
theorem due_sight_some (b : Ledger) (key requestKey : String) :
    (b.sight key (some requestKey)).due key =
      if (b.seen key).getLast?.join = some requestKey then b.due key
      else b.due key ++ [requestKey] := by
  have hlast : (b.seen key).getLast? = some (some requestKey) ↔
      (b.seen key).getLast?.join = some requestKey := by
    rw [Option.join_eq_some_iff]
  rw [due, due, seen_sight_self, destutter_concat]
  simp only [hlast]
  split
  · rfl
  · rw [List.reduceOption_append]
    rfl

/-- Nothing has happened to a worker, as far as keys go. -/
structure Untouched (b b' : Ledger) (key : String) : Prop where
  /-- What it has seen. -/
  seen_eq : b'.seen key = b.seen key
  /-- What it has asked for. -/
  asked_eq : b'.asked key = b.asked key
  /-- The key of its current request. -/
  key_eq : (b'.current? key).map (·.key) = (b.current? key).map (·.key)

theorem Untouched.trans {b'' : Ledger} (h : Untouched b b' key) (h' : Untouched b' b'' key) :
    Untouched b b'' key :=
  ⟨h'.seen_eq.trans h.seen_eq, h'.asked_eq.trans h.asked_eq, h'.key_eq.trans h.key_eq⟩

theorem untouched_setCurrent (h : other ≠ key) (b : Ledger) (current : Option CurrentRequest) :
    Untouched b (b.setCurrent key current) other :=
  ⟨rfl, rfl, by rw [current?_setCurrent_of_ne h]⟩

theorem untouched_sight (h : other ≠ key) (b : Ledger) (found : Option String) :
    Untouched b (b.sight key found) other :=
  ⟨seen_sight_of_ne h b found, asked_sight b key found other, rfl⟩

theorem untouched_ask (h : other ≠ key) (b : Ledger) (requestKey : String) (l : Lookup) :
    Untouched b (b.ask key requestKey l) other :=
  ⟨seen_ask b key requestKey l other, asked_ask_of_ne h b requestKey l,
    (untouched_setCurrent h b _).key_eq⟩

theorem untouched_land (b : Ledger) (errand : Errand) (result : LookupResult) (key : String) :
    Untouched b (b.land errand result) key where
  seen_eq := by simp [seen, land, Record.saw?]
  asked_eq := asked_land b errand result key
  key_eq := by
    by_cases hk : key = errand.worker
    · subst hk
      show ((b.setCurrent errand.worker _).current? errand.worker).map _ = _
      rw [current?_setCurrent_self, Option.map_map]
      exact congrArg (fun f => (b.current? errand.worker).map f) (funext (marked_key errand.id))
    · exact (untouched_setCurrent hk b _).key_eq

/-- Only what happens to workers that were not closed matters. -/
theorem Traced.of_untouched (h : Traced closed b)
    (hsame : ∀ key, ¬ closed key → Untouched b b' key) : Traced closed b' where
  keys_eq {key} hopen := by
    rw [(hsame key hopen).asked_eq, due_congr (hsame key hopen).seen_eq, h.keys_eq hopen]
  last_eq {key} hopen := by
    rw [(hsame key hopen).key_eq, (hsame key hopen).seen_eq, h.last_eq hopen]

/-- If something happens to one worker only, it is enough to look at that one. -/
theorem Traced.of_one (h : Traced closed b) (hsame : ∀ other, other ≠ key → Untouched b b' other)
    (hkeys : ¬ closed key → (b'.asked key).map (·.key) = b'.due key)
    (hlast : ¬ closed key → (b'.current? key).map (·.key) = (b'.seen key).getLast?.join) :
    Traced closed b' where
  keys_eq {other} hopen := by
    by_cases ho : other = key
    · exact ho ▸ hkeys (ho ▸ hopen)
    · rw [(hsame other ho).asked_eq, due_congr (hsame other ho).seen_eq, h.keys_eq hopen]
  last_eq {other} hopen := by
    by_cases ho : other = key
    · exact ho ▸ hlast (ho ▸ hopen)
    · rw [(hsame other ho).key_eq, (hsame other ho).seen_eq, h.last_eq hopen]

theorem Traced.rest (h : Traced closed b) (key : String) :
    Traced closed ((b.setCurrent key none).sight key none) := by
  refine h.of_one (fun other ho => (untouched_setCurrent ho b none).trans
    (untouched_sight ho _ none)) (fun hopen => ?_) fun _ => ?_
  · rw [asked_sight, due_sight_none]
    exact h.keys_eq hopen
  · rw [seen_sight_self, List.getLast?_concat]
    show ((b.setCurrent key none).current? key).map _ = _
    rw [current?_setCurrent_self]
    rfl

theorem Traced.stay (h : Traced closed b) (hcurrent : b.current? key = some request) :
    Traced closed (b.sight key (some request.key)) := by
  refine h.of_one (fun other ho => untouched_sight ho b _) (fun hopen => ?_) fun _ => ?_
  · have hlast : (b.seen key).getLast?.join = some request.key := by
      rw [← h.last_eq hopen, hcurrent]
      rfl
    rw [asked_sight, due_sight_some, if_pos hlast]
    exact h.keys_eq hopen
  · rw [seen_sight_self, List.getLast?_concat]
    show (b.current? key).map _ = _
    rw [hcurrent]
    rfl

theorem Traced.ask (h : Traced closed b) (hnew : (b.current? key).map (·.key) ≠ some requestKey)
    (l : Lookup) : Traced closed ((b.sight key (some requestKey)).ask key requestKey l) := by
  refine h.of_one (fun other ho => (untouched_sight ho b _).trans (untouched_ask ho _ requestKey l))
    (fun hopen => ?_) fun _ => ?_
  · have hlast : (b.seen key).getLast?.join ≠ some requestKey := h.last_eq hopen ▸ hnew
    rw [asked_ask_self, asked_sight, List.map_append, h.keys_eq hopen, due_congr (seen_ask ..),
      due_sight_some, if_neg hlast]
    rfl
  · rw [seen_ask, seen_sight_self, List.getLast?_concat]
    show (((b.sight key (some requestKey)).setCurrent key _).current? key).map _ = _
    rw [current?_setCurrent_self]
    rfl

theorem Look.traced (hstep : Look b b') (h : Traced closed b) : Traced closed b' := by
  cases hstep with
  | rest key => exact h.rest key
  | stay hcurrent => exact h.stay hcurrent
  | ask hlookup hneeds hnew => exact h.ask hnew _

/-- **A worker asks for what it sees.** -/
theorem Step.traced (hstep : Step closed b b') (h : Traced closed b) : Traced closed b' := by
  cases hstep with
  | look hlook => exact hlook.traced h
  | land hin result => exact h.of_untouched fun key _ => untouched_land b _ result key
  | @shut key hclosed =>
    refine h.of_untouched fun other hopen => ?_
    have ho : other ≠ key := fun heq => hopen (heq ▸ hclosed)
    exact ⟨rfl, rfl, (untouched_setCurrent ho b none).key_eq⟩

/-! ## After an answer -/

/-- What a worker has seen, by some records. -/
theorem mem_seen {records : List Record} {found : Option String} :
    found ∈ records.filterMap (Record.saw? key) ↔ .saw key found ∈ records := by
  simp only [List.mem_filterMap]
  constructor
  · rintro ⟨r, hr, hsaw⟩
    cases r with
    | saw other seen =>
      simp only [Record.saw?, Option.ite_none_right_eq_some, Option.some.injEq] at hsaw
      obtain ⟨rfl, rfl⟩ := hsaw
      exact hr
    | asked _ => cases hsaw
    | answered _ _ => cases hsaw
  · exact fun hr => ⟨_, hr, by simp [Record.saw?]⟩

/-- After an answer to a request, good or bad, its worker asks for nothing as long as it sees the key of
that request. -/
def Settled (closed : String → Prop) (b : Ledger) : Prop :=
  ∀ front back id result errand, b.records = front ++ .answered id result :: back →
    .asked errand ∈ front → errand.id = id → ¬ closed errand.worker →
    (front.filterMap (Record.saw? errand.worker)).getLast? = some (some errand.key) →
    (∀ found, .saw errand.worker found ∈ back → found = some errand.key) →
    ∀ other, .asked other ∈ back → other.worker ≠ errand.worker

/-- What a worker has seen last, if from some moment on it has seen nothing else. -/
theorem getLast?_seen {front back : List Record} {seen : Option String}
    (hfront : (front.filterMap (Record.saw? key)).getLast? = some seen)
    (hback : ∀ found, .saw key found ∈ back → found = seen) :
    ((front ++ back).filterMap (Record.saw? key)).getLast? = some seen := by
  rw [List.filterMap_append, List.getLast?_append]
  cases hlast : (back.filterMap (Record.saw? key)).getLast? with
  | none => rw [Option.none_or, hfront]
  | some found =>
    rw [hback found (mem_seen.mp (List.mem_of_getLast? hlast))]
    rfl

/-- If nothing is written down after an answer but looks, and requests for another key than the one seen
before, all is as it should be. -/
theorem Settled.append (h : Settled closed b) (new : List Record)
    (hrecords : b'.records = b.records ++ new)
    (hapart : ∀ {id result errand}, .answered id result ∈ new → .asked errand ∉ new)
    (hasked : ∀ errand, .asked errand ∈ new → ¬ closed errand.worker →
      .saw errand.worker (some errand.key) ∈ new ∧
        (b.seen errand.worker).getLast? ≠ some (some errand.key)) : Settled closed b' := by
  intro front back id result errand hsplit hfront hid hopen hlast hsame other hother hworker
  rw [hrecords, List.append_eq_append_iff] at hsplit
  obtain ⟨between, rfl, hnew⟩ | ⟨between, hbefore, hback⟩ := hsplit
  · rw [hnew] at hapart
    exact hapart (List.mem_append_right _ List.mem_cons_self)
      (List.mem_append_right _ (List.mem_cons_of_mem _ hother))
  · cases between with
    | nil =>
      rw [List.nil_append] at hback
      rw [← hback] at hapart
      exact hapart List.mem_cons_self (List.mem_cons_of_mem _ hother)
    | cons first between =>
      obtain ⟨rfl, rfl⟩ := List.cons.inj hback
      rcases List.mem_append.mp hother with hold | hnew
      · exact h _ _ _ _ _ hbefore hfront hid hopen hlast
          (fun found hr => hsame found (List.mem_append_left _ hr)) other hold hworker
      · -- a new request would be for the key that was seen last
        obtain ⟨hsaw, hdiffers⟩ := hasked other hnew (hworker ▸ hopen)
        have hkey : some other.key = some errand.key :=
          hsame _ (hworker ▸ List.mem_append_right _ hsaw)
        refine hdiffers ?_
        rw [hkey, hworker, seen, hbefore]
        refine getLast?_seen hlast fun found hr => ?_
        rcases List.mem_cons.mp hr with hnot | hr
        · cases hnot
        · exact hsame found (List.mem_append_left _ hr)

theorem Look.settled (hstep : Look b b') (htraced : Traced closed b) (h : Settled closed b) :
    Settled closed b' := by
  cases hstep with
  | rest key => exact h.append [.saw key none] rfl (by simp) (by simp)
  | @stay key request hcurrent =>
    exact h.append [.saw key (some request.key)] rfl (by simp) (by simp)
  | @ask key requestKey l hlookup hneeds hnew =>
    refine h.append [.saw key (some requestKey), .asked (b.nextErrand key requestKey l)]
      (List.append_assoc _ _ _) (by simp) fun errand hr hopen => ?_
    obtain rfl : errand = b.nextErrand key requestKey l := by simpa using hr
    refine ⟨List.mem_cons_self, fun hlast => hnew ?_⟩
    exact (htraced.last_eq hopen).trans (congrArg Option.join hlast)

theorem Step.settled (hstep : Step closed b b') (htraced : Traced closed b)
    (h : Settled closed b) : Settled closed b' := by
  cases hstep with
  | look hlook => exact hlook.settled htraced h
  | @land errand hin result =>
    exact h.append [.answered errand.id result] rfl (by simp) (by simp)
  | @shut key hclosed => exact h.append [] (List.append_nil _).symm (by simp) (by simp)

/-- The lookups stay what they are. -/
theorem Step.lookup?_eq (hstep : Step closed b b') : b'.lookup? = b.lookup? := by
  cases hstep with
  | look hlook => cases hlook <;> rfl
  | land hin result => rfl
  | shut hclosed => rfl

/-! ## All together -/

/-- All is in order with the requests of some workers. -/
structure InOrder (lookups : String → Option Lookup) (closed : String → Prop) (b : Ledger) :
    Prop where
  /-- The books are sound. -/
  sound : b.Sound
  /-- Workers that were not closed have asked for what they have seen. -/
  traced : b.Traced closed
  /-- An answer is followed by no second request. -/
  settled : b.Settled closed
  /-- The lookups. -/
  lookup?_eq : b.lookup? = lookups

/-- **All stays in order**, whatever happens. -/
theorem InOrder.of_reaches {lookups : String → Option Lookup} (h : b.InOrder lookups closed)
    (hreaches : Relation.ReflTransGen (Step closed) b b') : b'.InOrder lookups closed := by
  induction hreaches with
  | refl => exact h
  | tail _ hstep ih =>
    exact ⟨hstep.sound ih.sound, hstep.traced ih.traced, hstep.settled ih.traced ih.settled,
      hstep.lookup?_eq.trans ih.lookup?_eq⟩

end Ledger

end DynamicForms
