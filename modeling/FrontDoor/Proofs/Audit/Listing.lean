import FrontDoor.Audit.Plugin
import FrontDoor.Proofs.Effect
import FrontDoor.Proofs.Frame.Cells
import FrontDoor.Proofs.Json.RoundTrip
import FrontDoor.Proofs.Query
import Mathlib.Data.List.DropRight

namespace FrontDoor.Audit

open Http

variable {υ : Type}

namespace Log

def ofRecords (capacity : Nat) (records : List Record) : Log := ⟨records.rtake capacity, capacity⟩

theorem eq_of_new {capacity : Nat} {log : Log} (hcapacity : 0 < capacity)
    (h : Log.new capacity = .ok log) :
    log = ofRecords capacity [] := by
  rw [new, Nat.max_eq_left hcapacity] at h
  split at h
  · cases h
  · rw [ofRecords, List.rtake_nil, ← Except.ok.inj h]

theorem push_ofRecords {capacity : Nat} (hcapacity : 0 < capacity) (records : List Record)
    (r : Record) :
    (ofRecords capacity records).push r = ofRecords capacity (records ++ [r]) := by
  have hlength : (records.rtake capacity).length = records.length - (records.length - capacity) :=
    List.length_drop
  rw [push, ofRecords, ofRecords]
  dsimp only
  -- The log is full exactly if the oldest record that it got has to go, or is gone already.
  by_cases hfull : capacity ≤ records.length
  · have hkeep : (records ++ [r]).length - capacity = (records.length - capacity) + 1 := by
      simp only [List.length_append, List.length_singleton]
      omega
    have hroom : (records.length - capacity) + 1 ≤ records.length := by omega
    rw [if_pos (by omega), List.rtake, List.rtake, List.tail_drop, hkeep,
      List.drop_append_of_le_length hroom]
  · have hall : records.length - capacity = 0 := by omega
    have hall' : (records ++ [r]).length - capacity = 0 := by
      simp only [List.length_append, List.length_singleton]
      omega
    rw [if_neg (by omega), List.rtake, List.rtake, hall, hall', List.drop_zero, List.drop_zero]

theorem recent_ofRecords (capacity : Nat) (records : List Record) (n : Nat) :
    (ofRecords capacity records).recent n = records.reverse.take (min n capacity) := by
  rw [recent, ofRecords, List.rtake_eq_reverse_take_reverse, List.reverse_reverse, List.take_take]

end Log

def told (r : Record) : Json :=
  .object [("method", .text r.method), ("path", .text r.path),
    ("request_id", .text (toString r.requestId)),
    ("status", .int r.status), ("timestamp", .text (toString r.timestamp))]

theorem told_keys : ["method", "path", "request_id", "status", "timestamp"].Pairwise (· < ·) := by
  decide +kernel

theorem toJson_eq_told (r : Record) : r.toJson = told r :=
  Json.ofMembers_of_perm (((List.Perm.swap _ _ _).cons _).cons _) told_keys

structure Lists (records : List Record) (response : Response) : Prop where
  status : response.status = 200
  media : response.header? "content-type" = some "application/json"
  body : Json.parse response.body = .ok (.list (records.map told))

theorem plain_told {r : Record} (h : r.status < 0x10000) (depth : Nat) :
    (told r).Plain (depth + 1) := by
  refine .object (List.pairwise_map.1 told_keys) ?_
  simp only [List.forall_mem_cons]
  exact ⟨.text _, .text _, .text _, .int (by omega) (by omega), .text _, by simp⟩

theorem lists_json {records : List Record} (h : ∀ r ∈ records, r.status < 0x10000) :
    Lists records (.json 200 (Json.list (records.map told)).write) where
  status := rfl
  media := rfl
  body := by
    refine Json.parse_write (.list fun j hj ↦ ?_)
    obtain ⟨r, hr, rfl⟩ := List.mem_map.1 hj
    exact plain_told (h r hr) _

def listing (log : Log) : Service υ := fun req ↦
  match Query.number? "limit" 0x10000000000000000 (Query.pairs (req.query.getD "")) none with
  | .error message => return .text 400 ("Failed to deserialize query string: " ++ message)
  | .ok limit => return .json 200 (Json.list ((log.recent (limit.getD log.capacity)).map told)).write

def Asks (req : Request) (n : Nat) : Prop :=
  Query.number? "limit" 0x10000000000000000 (Query.pairs (req.query.getD "")) none = .ok (some n)

theorem listing_of_asks {req : Request} {n : Nat} (h : Asks req n) (capacity : Nat)
    (records : List Record) :
    (listing (.ofRecords capacity records) req : Effect υ Response) =
      return .json 200 (Json.list ((records.reverse.take (min n capacity)).map told)).write := by
  rw [listing, h]
  dsimp only
  rw [Option.getD_some, Log.recent_ofRecords]

theorem asks_limit {req : Request} {n : Nat} (hn : n < 0x10000000000000000)
    (hquery : req.query = some ("limit=" ++ toString n)) : Asks req n := by
  have hname : "limit=" = "limit" ++ "=" := rfl
  rw [Asks, hquery, Option.getD_some, hname]
  exact Query.number?_pairs_number rfl hn

theorem outcome_recentService {cell : Cell υ (Option Log)} {w : World υ} {log : Log}
    (h : cell.read w.store = some log) (req : Request) :
    (recentService cell req).outcome w = (listing log req).outcome w := by
  rw [recentService, listing]
  cases Query.number? "limit" 0x10000000000000000 (Query.pairs (req.query.getD "")) none with
  | error message => rfl
  | ok limit =>
    dsimp only
    have htold : Record.toJson = told := funext toJson_eq_told
    rw [Effect.outcome_bind_of_ok (cell.outcome_get w), h, htold]

end FrontDoor.Audit
