import Mathlib.Data.List.Nodup
import SingTun.Ping.Destination

/-!
# The number of requests

`registerRequest` deletes the requests that have expired, and the oldest one of
the others if there are more than `requestsLimit`; then it adds its own.  The
requests that are left alone are compared with the limit before the new one is
added, and a request that is as old as the new one is not a candidate.
-/

namespace SingTun.Ping

open Foundation Header List

/-- What changes the requests. -/
inductive RequestEvent (family : Family)
  /-- `registerRequest`, at a time, with the order of its loop. -/
  | register (now : Int) (visited : Requests family)
      (request : PingRequest family)
  /-- `loopRead` has received the reply. -/
  | reply (request : PingRequest family)

section Requests

variable {family : Family} {timeout now : Int}
  {visited requests : Requests family} {request : PingRequest family}

/-- The order of a loop is one of the entries that there are. -/
def Requests.step (timeout : Int) (requests : Requests family) :
    RequestEvent family → Requests family
  | .register now visited request =>
    if visited.Perm requests then
      registerRequest timeout now visited requests request
    else requests
  | .reply request => requests.delete request

def requestsAfter (timeout : Int) (events : List (RequestEvent family)) : Requests family :=
  events.foldl (Requests.step timeout) []

def Requests.unexpired (timeout now : Int) (requests : Requests family) : Requests family :=
  requests.filter fun entry => now - entry.2 ≤ timeout

theorem requestsAfter_concat (events : List (RequestEvent family)) (event : RequestEvent family) :
    requestsAfter timeout (events ++ [event]) = (requestsAfter timeout events).step timeout event :=
  foldl_concat ..

/-! ## Keys -/

/-- The keys of a map. -/
def Requests.Distinct (requests : Requests family) : Prop :=
  (requests.map Prod.fst).Nodup

theorem Requests.keys_delete (requests : Requests family) (request : PingRequest family) :
    (requests.delete request).map Prod.fst = (requests.map Prod.fst).filter (· != request) := by
  rw [filter_map]
  refine congrArg _ (filter_congr fun entry _ => ?_)
  exact Bool.eq_iff_iff.mpr (by simp)

theorem Requests.Distinct.delete (distinct : requests.Distinct) (request : PingRequest family) :
    (requests.delete request).Distinct := by
  rw [Requests.Distinct, requests.keys_delete]
  exact List.Nodup.filter _ distinct

theorem Requests.Distinct.length_delete
    (distinct : requests.Distinct) (request : PingRequest family) :
    (requests.delete request).length =
      if requests.Has request then requests.length - 1
      else requests.length := by
  have keys := congrArg List.length (requests.keys_delete request)
  rw [← List.Nodup.erase_eq_filter distinct, length_erase] at keys
  rw [length_map, length_map] at keys
  exact keys.trans (if_congr Iff.rfl rfl rfl)

theorem Requests.Distinct.unexpired (distinct : requests.Distinct) (timeout now : Int) :
    (requests.unexpired timeout now).Distinct :=
  List.Nodup.sublist (filter_sublist.map _) distinct

theorem Requests.Distinct.register
    (distinct : requests.Distinct) (request : PingRequest family) (now : Int) :
    Requests.Distinct ((request, now) :: requests.delete request) := by
  refine nodup_cons.mpr ⟨?_, distinct.delete request⟩
  rw [requests.keys_delete, mem_filter]
  simp

/-! ## The loop -/

/-- The loop deletes what has expired. -/
theorem requests_visits (visited : Requests family) (expiry : Expiry family) :
    (visited.foldl (Expiry.visit timeout now) expiry).requests = expiry.requests.filter fun entry =>
        visited.all fun other =>
          entry.1 ≠ other.1 ∨ now - other.2 ≤ timeout := by
  induction visited generalizing expiry with
  | nil => simp
  | cons entry visited ih =>
    rw [foldl_cons, ih, Expiry.visit]
    by_cases expired : now - entry.2 > timeout
    · rw [if_pos expired, Requests.delete, filter_filter]
      refine filter_congr fun other _ => ?_
      have late : ¬now ≤ timeout + entry.2 := by omega
      simp [late, Bool.and_comm]
    · have fresh : now ≤ timeout + entry.2 := by omega
      rw [if_neg expired]
      split <;> simp [fresh]

/-- The request that the loop has found is not younger than another one. -/
theorem oldest_visits (requests : Requests family)
    {expiry : Expiry family}
    (loop : visited.foldl (Expiry.visit timeout now) ⟨requests, none, now⟩ = expiry) :
    (∀ entry ∈ visited, now - entry.2 ≤ timeout → expiry.oldestCreateAt ≤ entry.2) ∧
      ∀ request, expiry.oldestRequest = some request →
        (request, expiry.oldestCreateAt) ∈ visited := by
  induction visited using List.reverseRecOn generalizing expiry with
  | nil =>
    subst loop
    exact ⟨nofun, nofun⟩
  | append_singleton visited entry ih =>
    rw [foldl_concat] at loop
    obtain ⟨least, found⟩ := ih rfl
    generalize visited.foldl _ _ = before at loop least found
    subst loop
    simp only [mem_append, mem_singleton]
    unfold Expiry.visit
    split
    · rename_i expired
      refine ⟨?_, fun request same => .inl (found request same)⟩
      rintro other (earlier | rfl) fresh
      · exact least other earlier fresh
      · omega
    · split
      · rename_i older
        refine ⟨?_, ?_⟩
        · rintro other (earlier | rfl) fresh
          · exact (le_of_lt older).trans (least other earlier fresh)
          · exact le_rfl
        · rintro request ⟨⟩
          exact .inr rfl
      · rename_i younger
        refine ⟨?_, fun request same => .inl (found request same)⟩
        rintro other (earlier | rfl) fresh
        · exact least other earlier fresh
        · omega

section Register

variable (distinct : requests.Distinct) (order : visited.Perm requests)
include distinct order

theorem requests_visits_eq :
    (visited.foldl (Expiry.visit timeout now) ⟨requests, none, now⟩).requests =
      requests.unexpired timeout now := by
  rw [requests_visits]
  refine filter_congr fun entry member => Bool.eq_iff_iff.mpr ?_
  simp only [all_eq_true, decide_eq_true_eq]
  constructor
  · intro all
    exact (all entry (order.mem_iff.mpr member)).resolve_left (· rfl)
  · intro fresh other inside
    refine or_iff_not_imp_left.mpr fun same => ?_
    rwa [← inj_on_of_nodup_map distinct member (order.mem_iff.mp inside) (not_not.mp same)]

/-- What is left when the new request is added. -/
theorem registerRequest_cases :
    ∃ kept, registerRequest timeout now visited requests request =
      (request, now) :: kept.delete request ∧ (kept = requests.unexpired timeout now ∨
      requestsLimit < (requests.unexpired timeout now).length ∧ ∃ oldest ∈ requests,
          kept = (requests.unexpired timeout now).delete oldest.1 ∧
          ∀ entry ∈ requests.unexpired timeout now, oldest.2 ≤ entry.2) := by
  have unexpired := @requests_visits_eq family timeout now _ _ distinct order
  obtain ⟨least, found⟩ := oldest_visits requests rfl
  rw [registerRequest]
  generalize visited.foldl _ _ = expiry at unexpired least found ⊢
  rw [unexpired]
  refine ⟨_, rfl, ?_⟩
  split
  · rename_i many
    cases some : expiry.oldestRequest with
    | none => exact .inl rfl
    | some oldest =>
      refine .inr ⟨many, _, order.mem_iff.mp (found oldest some), rfl, ?_⟩
      intro entry member
      obtain ⟨member, fresh⟩ := mem_filter.mp member
      exact least entry (order.mem_iff.mpr member) (of_decide_eq_true fresh)
  · exact .inl rfl

theorem length_registerRequest_le_iff (bound : requests.length ≤ requestsLimit) :
    (registerRequest timeout now visited requests request).length ≤ requestsLimit ↔
      (requests.unexpired timeout now).length < requestsLimit ∨
        (requests.unexpired timeout now).Has request := by
  obtain ⟨kept, result, left⟩ := @registerRequest_cases _ timeout now _ _ request distinct order
  have fewer : (requests.unexpired timeout now).length ≤ requestsLimit :=
    (length_filter_le ..).trans bound
  have own : kept = requests.unexpired timeout now :=
    left.resolve_right fun many => absurd many.1 (Nat.not_lt.mpr fewer)
  subst own
  rw [result, length_cons, (distinct.unexpired timeout now).length_delete]
  have positive : 0 < requestsLimit := by decide
  split
  · rename_i has
    simp only [has, or_true, iff_true]
    omega
  · rename_i new
    simp only [new, or_false]
    omega

theorem evicted_oldest {entry : PingRequest family × Int}
    (member : entry ∈ requests.unexpired timeout now)
    (different : entry.1 ≠ request)
    (gone : ¬(registerRequest timeout now visited requests request).Has entry.1) :
    ∀ other ∈ requests.unexpired timeout now, entry.2 ≤ other.2 := by
  obtain ⟨kept, result, left⟩ := @registerRequest_cases _ timeout now _ _ request distinct order
  have inside : (requests.unexpired timeout now).Has entry.1 := mem_map_of_mem member
  have missing : ¬kept.Has entry.1 := by
    intro has
    rw [result] at gone
    exact gone (mem_cons_of_mem _ (has_delete.mpr ⟨has, different⟩))
  rcases left with rfl | ⟨-, oldest, found, rfl, least⟩
  · exact absurd inside missing
  · have same : entry.1 = oldest.1 := by
      by_contra other
      exact missing (has_delete.mpr ⟨inside, other⟩)
    rwa [inj_on_of_nodup_map distinct (mem_filter.mp member).1 found same]

end Register

theorem distinct_requestsAfter (events : List (RequestEvent family)) :
    (requestsAfter timeout events).Distinct := by
  induction events using List.reverseRecOn with
  | nil => exact nodup_nil
  | append_singleton events event ih =>
    rw [requestsAfter_concat]
    cases event with
    | register now visited request =>
      rw [Requests.step]
      split
      · rename_i order
        obtain ⟨kept, result, left⟩ := @registerRequest_cases _ timeout now _ _ request ih order
        rw [result]
        apply Requests.Distinct.register
        rcases left with rfl | ⟨-, oldest, -, rfl, -⟩
        · exact ih.unexpired timeout now
        · exact (ih.unexpired timeout now).delete _
      · exact ih
    | reply request => exact ih.delete request

/-! ## The limit -/

/-- There are not too many requests at any time, and if one is deleted to make
room, it is one of the oldest. -/
structure RequestsBounded
    (timeout : Int) (events : List (RequestEvent family)) : Prop where
  bound : ∀ before after, events = before ++ after →
    (requestsAfter timeout before).length ≤ requestsLimit
  evicted : ∀ before now visited request after,
    events = before ++ .register now visited request :: after →
    ∀ entry ∈ (requestsAfter timeout before).unexpired timeout now,
      entry.1 ≠ request → ¬(requestsAfter timeout
        (before ++ [.register now visited request])).Has entry.1 →
      ∀ other ∈ (requestsAfter timeout before).unexpired timeout now, entry.2 ≤ other.2

/-- The limit is kept exactly if every request finds room, or itself. -/
theorem requestsBounded_iff (timeout : Int) (events : List (RequestEvent family)) :
    RequestsBounded timeout events ↔ ∀ before now visited request after,
        events = before ++ .register now visited request :: after →
        visited.Perm (requestsAfter timeout before) →
          ((requestsAfter timeout before).unexpired timeout now).length < requestsLimit ∨
            ((requestsAfter timeout before).unexpired timeout now).Has
              request := by
  constructor
  · intro bounded before now visited request after split order
    have after := bounded.bound (before ++ [.register now visited request])
      after (by rw [split, append_assoc]; rfl)
    rw [requestsAfter_concat, Requests.step, if_pos order] at after
    exact (length_registerRequest_le_iff (distinct_requestsAfter before) order
      (bounded.bound before _ split)).mp after
  · intro room
    constructor
    case bound =>
      intro before
      induction before using List.reverseRecOn with
      | nil => exact fun _ _ => Nat.zero_le _
      | append_singleton before event ih =>
        intro after split
        rw [append_assoc] at split
        have bound := ih _ split
        rw [requestsAfter_concat]
        cases event with
        | register now visited request =>
          rw [Requests.step]
          split
          · rename_i order
            exact (length_registerRequest_le_iff (distinct_requestsAfter before) order bound).mpr
                (room before now visited request after split order)
          · exact bound
        | reply request => exact (length_filter_le ..).trans bound
    case evicted =>
      intro before now visited request after split entry member different gone
      rw [requestsAfter_concat, Requests.step] at gone
      split at gone
      · rename_i order
        exact evicted_oldest (distinct_requestsAfter before) order member different gone
      · exact absurd (mem_map_of_mem (mem_filter.mp member).1) gone

end Requests

/-! ## Requests at one time -/

/-- The requests of one client, by their numbers. -/
def numbered (k : Nat) : PingRequest .v4 :=
  ⟨.from4 10 0 0 2, .from4 10 0 0 1, 1, UInt16.ofNat k⟩

/-- They are registered at one time. -/
def numberedAt (n : Nat) : Requests .v4 :=
  (List.range n).reverse.map fun k => (numbered k, 0)

/-- A request of this time is neither deleted nor the oldest one. -/
theorem visits_numberedAt (n : Nat) (requests : Requests .v4) :
    (numberedAt n).foldl (Expiry.visit 30 0) ⟨requests, none, 0⟩ = ⟨requests, none, 0⟩ := by
  rw [numberedAt, foldl_map]
  exact foldl_fixed' (fun _ => rfl) _

theorem registerRequest_numbered {n : Nat} (small : n < 65536) :
    registerRequest 30 0 (numberedAt n) (numberedAt n) (numbered n) = numberedAt (n + 1) := by
  have new : (numberedAt n).delete (numbered n) = numberedAt n := by
    refine filter_eq_self.mpr fun entry member => decide_eq_true ?_
    obtain ⟨k, inside, rfl⟩ := mem_map.mp member
    rw [mem_reverse, mem_range] at inside
    intro same
    have numbers := congrArg (fun request => request.sequence.toNat) same
    simp only [numbered, UInt16.toNat_ofNat'] at numbers
    omega
  rw [registerRequest, visits_numberedAt]
  simp only [Option.elim_none, ite_self]
  rw [new, numberedAt, numberedAt, range_succ, reverse_append]
  rfl

/-- As many requests as there are numbers. -/
theorem requestsAfter_numbered {n : Nat} (small : n ≤ 65536) :
    requestsAfter 30 ((List.range n).map fun k =>
      .register 0 (numberedAt k) (numbered k)) = numberedAt n := by
  induction n with
  | zero => rfl
  | succ n ih =>
    rw [range_succ, map_append, map_singleton,
      requestsAfter_concat, ih (by omega), Requests.step,
      if_pos (List.Perm.refl _), registerRequest_numbered (by omega)]

/-- None of the requests of one time is older than the others, and none is
deleted. -/
theorem requests_unbounded :
    ∃ events : List (RequestEvent .v4),
      ¬RequestsBounded 30 events ∧ (requestsAfter 30 events).length = 2048 := by
  have length : (requestsAfter 30 ((List.range 2048).map fun k =>
      .register 0 (numberedAt k) (numbered k))).length = 2048 := by
    rw [requestsAfter_numbered (by decide), numberedAt, length_map,
      length_reverse, length_range]
  refine ⟨_, fun bounded => ?_, length⟩
  have bound := bounded.bound _ [] (append_nil _).symm
  rw [length] at bound
  exact absurd bound (by decide)

end SingTun.Ping
