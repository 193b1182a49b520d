import DynamicForms.Lookup.Channel
import DynamicForms.Proofs.Schema.Reread

/-!
# `DynamicForms.Proofs.Lookup.Client` — a client always has an answer

A client asks the built-in lookups and, for endpoints that are not theirs, a remote service. Whatever comes
back, or does not, is turned into a response. It is a success in three cases only: the table of a built-in
lookup has the key that was asked for, or a reply without the status of a failure has in its body an object
that is the data itself, or one that is an envelope around the data.

## Contents
- `Response.Brings`: a response is a success with some data.
- **Entries that may be missing.** `Decode.Leaves`, `optional_eq_ok_iff`; `Response.decode_eq_ok_iff`.
- **Built-in lookups.** `Builtin.Finds`, `brings_respond_iff`, `isSome_respond`.
- **Replies.** `Reply.Delivers`, `brings_clientAnswer_iff`.
- **The client.** `Channel.Source`, `Channel.Handles`, `client_handles`.
-/

namespace DynamicForms

open Value (Object)

variable {params fields : Object} {endpoint name url : String} {data : Option Object}

/-- A response is a success with some data. -/
def Response.Brings (r : Response) (data : Option Object) : Prop :=
  r.success = true ∧ r.data = data

theorem Response.not_brings_failed (error : String) : ¬ (Response.failed error).Brings data :=
  fun h => Bool.noConfusion h.1

theorem Response.brings_found_iff {found : Object} :
    (Response.found found).Brings data ↔ data = some found :=
  ⟨fun h => h.2.symm, fun h => ⟨rfl, h.symm⟩⟩

/-! ## Entries that may be missing -/

namespace Decode

variable {α : Type} {toValue : α → Value} {read : Value → Decoded α}

/-- What an entry leaves that may be missing or null. -/
inductive Leaves (toValue : α → Value) : Option Value → Option α → Prop
  /-- Nothing, if it is missing. -/
  | missing : Leaves toValue none none
  /-- Nothing, if it is null. -/
  | null : Leaves toValue (some .null) none
  /-- What is given. -/
  | given (a : α) : Leaves toValue (some (toValue a)) (some a)

/-- An entry that may be missing is accepted exactly if it is missing, null, or the value of something. -/
theorem optional_eq_ok_iff (hread : ∀ v a, read v = .ok a ↔ v = toValue a)
    (hnull : ∀ a, (toValue a).isNull = false) {part : Option α} :
    optional fields [name] read = .ok part ↔ Leaves toValue (fields.get? name) part := by
  cases hget : fields.get? name with
  | none =>
    rw [optional, named?_of_get?_none (by simpa using hget)]
    constructor
    · rintro ⟨⟩
      exact .missing
    · rintro ⟨⟩
      rfl
  | some v =>
    rw [optional, named?_of_get? hget]
    dsimp only
    constructor
    · intro h
      split at h
      · next hv =>
        obtain rfl : v = .null := (Value.isNull_iff v).mp hv
        cases h
        exact .null
      · cases hdecoded : read v with
        | error e => rw [hdecoded] at h; cases h
        | ok a =>
          rw [hdecoded] at h
          cases h
          rw [(hread v a).mp hdecoded]
          exact .given a
    · rintro (_ | _ | a)
      · rfl
      · rw [hnull, if_neg Bool.false_ne_true, (hread _ a).mpr rfl]
        rfl

theorem text_eq_ok_iff {v : Value} {s : String} : text v = .ok s ↔ v = .text s := by
  cases v <;> simp [text, refuse]

end Decode

theorem Response.dataEntries_eq_ok_iff {v : Value} {found : Object} :
    dataEntries v = .ok found ↔ v = .object found := by
  cases v <;> simp [dataEntries, Decode.refuse]

open Decode (Leaves)

/-- An envelope with a boolean for its success is accepted exactly if its data is an object and its error a
    text, as far as they are given. -/
theorem Response.decode_eq_ok_iff {b : Bool} {r : Response} (h : fields.get? "success" = some (.bool b)) :
    decode fields = .ok r ↔ r.success = b ∧ Leaves Value.object (fields.get? "data") r.data
      ∧ Leaves Value.text (fields.get? "error") r.error := by
  have hsuccess : Decode.required fields ["success"] flag = .ok b := Decode.required_of_get? h rfl
  have hdata : ∀ part, Decode.optional fields ["data"] dataEntries = .ok part ↔
      Leaves Value.object (fields.get? "data") part := fun _ =>
    Decode.optional_eq_ok_iff (fun _ _ => dataEntries_eq_ok_iff) fun _ => rfl
  have herror : ∀ part, Decode.optional fields ["error"] Decode.text = .ok part ↔
      Leaves Value.text (fields.get? "error") part := fun _ =>
    Decode.optional_eq_ok_iff (fun _ _ => Decode.text_eq_ok_iff) fun _ => rfl
  simp only [decode, bind_eq_ok_iff, hsuccess, hdata, herror, Except.ok.injEq, exists_eq_left']
  constructor
  · rintro ⟨found, hfound, text, htext, hr⟩
    cases hr
    exact ⟨rfl, hfound, htext⟩
  · rintro ⟨rfl, hfound, htext⟩
    exact ⟨r.data, hfound, r.error, htext, rfl⟩

/-! ## Built-in lookups -/

namespace Builtin

open Tables

/-- A built-in lookup finds data: its table has the key among the parameters. -/
inductive Finds (endpoint : String) (params found : Object) : Prop
  /-- The city of a postal code. -/
  | address (hendpoint : endpoint = "/api/address")
    (h : addressTable.get? (normalized (firstGiven params postalCodeNames)) = some found)
  /-- The company of a VAT number, in capitals. -/
  | company (hendpoint : endpoint = "/api/company")
    (h : companyTable.get? (Text.upper (normalized (firstGiven params vatNumberNames))) = some found)

/-- What a lookup in a table brings that has nothing for an empty key. -/
theorem brings_lookup_iff {table : Entries Object} (hempty : table.get? "" = none)
    (key missing unknown : String) :
    (if key.isEmpty then Response.failed missing else match table.get? key with
      | some found => .found found
      | none => .failed unknown).Brings data ↔ ∃ found, table.get? key = some found ∧ data = some found := by
  split
  · next hkey =>
    obtain rfl : key = "" := by simpa using hkey
    simp [hempty, Response.not_brings_failed]
  · cases table.get? key with
    | none => simp [Response.not_brings_failed]
    | some found => simp [Response.brings_found_iff]

theorem finds_address_iff {found : Object} : Finds "/api/address" params found ↔
    addressTable.get? (normalized (firstGiven params postalCodeNames)) = some found := by
  refine ⟨fun hfinds => ?_, .address rfl⟩
  cases hfinds with
  | address _ h => exact h
  | company hendpoint => exact absurd hendpoint (by decide)

theorem finds_company_iff {found : Object} : Finds "/api/company" params found ↔
    companyTable.get? (Text.upper (normalized (firstGiven params vatNumberNames))) = some found := by
  refine ⟨fun hfinds => ?_, .company rfl⟩
  cases hfinds with
  | address hendpoint => exact absurd hendpoint (by decide)
  | company _ h => exact h

theorem brings_lookupAddress_iff : (lookupAddress params).Brings data ↔
    ∃ found, Finds "/api/address" params found ∧ data = some found := by
  have hempty : addressTable.get? "" = none := rfl
  simp only [finds_address_iff, lookupAddress]
  -- from here on it does not matter how the key is made
  generalize normalized (firstGiven params postalCodeNames) = key
  exact brings_lookup_iff hempty _ _ _

theorem brings_lookupCompany_iff : (lookupCompany params).Brings data ↔
    ∃ found, Finds "/api/company" params found ∧ data = some found := by
  have hempty : companyTable.get? "" = none := rfl
  simp only [finds_company_iff, lookupCompany]
  generalize Text.upper (normalized (firstGiven params vatNumberNames)) = key
  exact brings_lookup_iff hempty _ _ _

/-- **The built-in lookups succeed where they find something.** -/
theorem brings_respond_iff {response : Response} (h : respond endpoint params = some response) :
    response.Brings data ↔ ∃ found, Finds endpoint params found ∧ data = some found := by
  unfold respond at h
  split at h
  · split at h
    · obtain rfl := Option.some.inj h
      exact brings_lookupAddress_iff
    · obtain rfl := Option.some.inj h
      exact brings_lookupCompany_iff
    · next haddress hcompany =>
      obtain rfl := Option.some.inj h
      refine iff_of_false (Response.not_brings_failed _) ?_
      rintro ⟨found, hfinds, -⟩
      cases hfinds with
      | address hendpoint => exact haddress hendpoint
      | company hendpoint => exact hcompany hendpoint
  · cases h

theorem owns_of_finds {found : Object} (h : Finds endpoint params found) : owns endpoint = true := by
  cases h with
  | address hendpoint => rw [hendpoint]; rfl
  | company hendpoint => rw [hendpoint]; rfl

/-- The built-in lookups answer for the endpoints that are theirs. -/
theorem isSome_respond (endpoint : String) (params : Object) :
    (respond endpoint params).isSome = owns endpoint := by
  unfold respond
  split
  · next howns => split <;> simp [howns]
  · next howns => simpa using howns

end Builtin

/-! ## Replies -/

/-- A reply delivers data, or an envelope without data. -/
inductive Reply.Delivers : Reply → Option Object → Prop
  /-- An object without a boolean under `success` is the data. -/
  | bare {status : Int} {fields : Object} (hstatus : status < 400)
    (hbare : ∀ b, fields.get? "success" ≠ some (.bool b)) :
    Delivers (.answered status (some (.object fields))) (some fields)
  /-- An envelope that says so is a success; it holds an object as data and a text as error, or leaves
      them out. -/
  | envelope {status : Int} {fields : Object} {data : Option Object} {error : Option String}
    (hstatus : status < 400) (hsuccess : fields.get? "success" = some (.bool true))
    (hdata : Leaves Value.object (fields.get? "data") data)
    (herror : Leaves Value.text (fields.get? "error") error) :
    Delivers (.answered status (some (.object fields))) data

namespace Channel

/-- An object in a body brings itself or, as an envelope, what it holds. -/
theorem brings_ofBody_iff : (clientAnswer (Response.ofBody fields)).Brings data ↔
    ((∀ b, fields.get? "success" ≠ some (.bool b)) ∧ data = some fields) ∨
      (fields.get? "success" = some (.bool true) ∧ Leaves Value.object (fields.get? "data") data ∧
        ∃ error, Leaves Value.text (fields.get? "error") error) := by
  unfold Response.ofBody
  split
  · next b hb =>
    constructor
    · intro h
      cases hdecoded : Response.decode fields with
      | error misfit =>
        rw [hdecoded] at h
        exact absurd h (Response.not_brings_failed _)
      | ok r =>
        rw [hdecoded] at h
        obtain ⟨hsuccess, hdata⟩ : r.success = true ∧ r.data = data := h
        obtain ⟨rfl, hleft, herror⟩ := (Response.decode_eq_ok_iff hb).mp hdecoded
        exact Or.inr ⟨hsuccess ▸ hb, hdata ▸ hleft, r.error, herror⟩
    · rintro (⟨hbare, -⟩ | ⟨hsuccess, hdata, error, herror⟩)
      · exact absurd hb (hbare b)
      · rw [(Response.decode_eq_ok_iff (r := ⟨true, data, error⟩) hsuccess).mpr ⟨rfl, hdata, herror⟩]
        exact ⟨rfl, rfl⟩
  · next hbare =>
    refine Response.brings_found_iff.trans ⟨fun h => Or.inl ⟨hbare, h⟩, ?_⟩
    rintro (⟨-, h⟩ | ⟨hsuccess, -⟩)
    · exact h
    · exact absurd hsuccess (hbare true)

/-- **A reply succeeds where it delivers something.** -/
theorem brings_clientAnswer_iff {reply : Reply} :
    (clientAnswer (reply.read url)).Brings data ↔ reply.Delivers data := by
  cases reply with
  | lost text => exact iff_of_false (Response.not_brings_failed _) nofun
  | answered status body =>
    rcases Int.lt_or_le status Reply.firstBadStatus with hstatus | hbad
    · simp only [Reply.read, if_neg (Int.not_le.mpr hstatus)]
      cases body with
      | none => exact iff_of_false (Response.not_brings_failed _) nofun
      | some v =>
        cases v with
        | object fields =>
          refine brings_ofBody_iff.trans ⟨?_, ?_⟩
          · rintro (⟨hbare, rfl⟩ | ⟨hsuccess, hdata, error, herror⟩)
            · exact .bare hstatus hbare
            · exact .envelope hstatus hsuccess hdata herror
          · intro h
            cases h with
            | bare _ hbare => exact Or.inl ⟨hbare, rfl⟩
            | envelope _ hsuccess hdata herror => exact Or.inr ⟨hsuccess, hdata, _, herror⟩
        | _ => exact iff_of_false (Response.not_brings_failed _) nofun
    · simp only [Reply.read, if_pos hbad]
      refine iff_of_false (Response.not_brings_failed _) fun h => ?_
      cases h with
      | bare hstatus => exact Int.not_lt.mpr hbad hstatus
      | envelope hstatus => exact Int.not_lt.mpr hbad hstatus

/-! ## The client -/

/-- Where the data of a success comes from. -/
inductive Source (service : Option Remote) (w : Wire) (endpoint : String) (params : Object) :
    Option Object → Prop
  /-- A built-in lookup finds it. -/
  | builtin {found : Object} (h : Builtin.Finds endpoint params found) :
    Source service w endpoint params (some found)
  /-- The endpoint is none of theirs, and the reply of the remote service delivers it. -/
  | remote {data : Option Object} {remote : Remote} {reply : Reply} {rest : List Reply}
    (howns : Builtin.owns endpoint = false) (hservice : service = some remote)
    (hreplies : w.replies = reply :: rest) (h : reply.Delivers data) :
    Source service w endpoint params data

/-- How a client deals with a request: the response that it makes, and the wire that it leaves. -/
structure Handles (service : Option Remote) (w : Wire) (endpoint : String) (params : Object)
    (response : Response) (w' : Wire) : Prop where
  /-- The response is a success with some data exactly if the data comes from somewhere. -/
  brings_iff : ∀ data, response.Brings data ↔ Source service w endpoint params data
  /-- What belongs to the built-in lookups never goes out. -/
  kept : Builtin.owns endpoint = true → w' = w
  /-- Anything else goes out once, and takes one reply. -/
  sent : Builtin.owns endpoint = false → ∀ remote, service = some remote →
    w' = ⟨w.replies.tail, w.calls ++ [⟨remote.url endpoint, params, some remote.timeout⟩]⟩

/-- Where nothing is built in, the data of a success comes from a reply. -/
theorem source_iff_of_not_owns {service : Option Remote} {w : Wire}
    (howns : Builtin.owns endpoint = false) :
    Source service w endpoint params data ↔ service.isSome = true ∧
      ∃ reply rest, w.replies = reply :: rest ∧ reply.Delivers data := by
  constructor
  · intro h
    cases h with
    | builtin hfinds => exact Bool.noConfusion (howns.symm.trans (Builtin.owns_of_finds hfinds))
    | remote _ hservice hreplies hdelivers =>
      exact ⟨Option.isSome_iff_exists.mpr ⟨_, hservice⟩, _, _, hreplies, hdelivers⟩
  · rintro ⟨hsome, reply, rest, hreplies, hdelivers⟩
    obtain ⟨remote, hservice⟩ := Option.isSome_iff_exists.mp hsome
    exact .remote howns hservice hreplies hdelivers

/-- What a post brings is what the next reply delivers. -/
theorem brings_post_iff (w : Wire) (remote : Remote) (endpoint : String) (params : Object) :
    (clientAnswer (w.post remote endpoint params).1).Brings data ↔
      ∃ reply rest, w.replies = reply :: rest ∧ reply.Delivers data := by
  unfold Wire.post
  cases hreplies : w.replies with
  | nil => exact iff_of_false (Response.not_brings_failed _) nofun
  | cons reply rest => simp [brings_clientAnswer_iff]

theorem wire_post (w : Wire) (remote : Remote) (endpoint : String) (params : Object) :
    (w.post remote endpoint params).2
      = ⟨w.replies.tail, w.calls ++ [⟨remote.url endpoint, params, some remote.timeout⟩]⟩ := by
  obtain ⟨replies, calls⟩ := w
  cases replies <;> rfl

/-- **A client makes a response of whatever happens**, and of nothing but data a success. -/
theorem client_handles (delay : Int) (service : Option Remote) (w : Wire) (endpoint : String)
    (params : Object) :
    ∃ wait response w', (client delay service).request w endpoint params
      = (.after wait (.ok (some response)), w') ∧ Handles service w endpoint params response w' := by
  cases hrespond : Builtin.respond endpoint params with
  | some response =>
    have howns : Builtin.owns endpoint = true := by
      rw [← Builtin.isSome_respond endpoint params, hrespond]
      rfl
    refine ⟨delay.toNat, response, w, ?_, fun data => ?_, fun _ => rfl, ?_⟩
    · simp only [request, hrespond]
    · rw [Builtin.brings_respond_iff hrespond]
      constructor
      · rintro ⟨found, hfinds, rfl⟩
        exact .builtin hfinds
      · rintro (⟨hfinds⟩ | ⟨hothers⟩)
        · exact ⟨_, hfinds, rfl⟩
        · exact Bool.noConfusion (hothers.symm.trans howns)
    · exact fun hothers => Bool.noConfusion (hothers.symm.trans howns)
  | none =>
    have howns : Builtin.owns endpoint = false := by
      rw [← Builtin.isSome_respond endpoint params, hrespond]
      rfl
    cases service with
    | some remote =>
      refine ⟨0, clientAnswer (w.post remote endpoint params).1, (w.post remote endpoint params).2, ?_,
        fun data => ?_, fun hours => Bool.noConfusion (howns.symm.trans hours), ?_⟩
      · simp only [request, hrespond]
      · rw [brings_post_iff, source_iff_of_not_owns howns, Option.isSome_some, and_iff_right rfl]
      · rintro - _ ⟨⟩
        exact wire_post w remote endpoint params
    | none =>
      refine ⟨0, .failed ("No transport handled " ++ endpoint), w, ?_, fun data => ?_, fun _ => rfl, nofun⟩
      · simp only [request, hrespond]
      · rw [source_iff_of_not_owns howns]
        exact iff_of_false (Response.not_brings_failed _) nofun

end Channel
end DynamicForms
