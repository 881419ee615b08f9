import Mathlib.Algebra.GroupWithZero.Nat
import Mathlib.Data.List.Forall2
import Mathlib.Data.List.Induction
import CyclicBus.Proofs.ProcessData.LastWriter

/-!
# Subscriptions

Any number of subscribers come, receive and leave while snapshots are published, and no other thread
holds a part of the data. What is due to a subscriber is told by its `life` alone, the calls that
concern it since it subscribed (`subscriptions`); `Serves` ties the channel to that.
`calls_deliver`: a subscriber receives what is due to it, in order and each snapshot once, and the
counters of the data count the publications and those that found the channel of a live subscriber
full.
-/

namespace CyclicBus

/-- What users and the worker do with the channels of process data. -/
inductive ChannelCall where
  | subscribe (capacity : Nat)
  | publish (x : Snapshot)
  | receive (index : Nat)
  | drop (index : Nat)
  deriving DecidableEq

/-- What happens to one subscriber. -/
inductive ChannelEvent where
  | published (x : Snapshot)
  | asked
  | left

/-- What is due to a subscriber. -/
structure Subscription where
  capacity : Nat
  /-- The snapshots that were published while there was room for them. -/
  due : List Snapshot
  /-- How many of them were received. -/
  taken : Nat
  /-- How many snapshots were published while there was no room. -/
  missed : Nat
  /-- The receiver was not dropped. -/
  live : Bool
  deriving DecidableEq

namespace Subscription

def ofCapacity (capacity : Nat) : Subscription := ⟨capacity, [], 0, 0, true⟩

def received (d : Subscription) : List Snapshot := d.due.take d.taken

/-- What is due and was not received yet. -/
def waiting (d : Subscription) : List Snapshot := d.due.drop d.taken

/-- There is room while fewer snapshots wait than the channel was asked to hold; it holds one at
least. -/
def HasRoom (d : Subscription) : Prop := d.waiting.length < max d.capacity 1

instance (d : Subscription) : Decidable d.HasRoom := inferInstanceAs (Decidable (_ < _))

/-- The subscription after something happened to it. Nothing is due to a subscriber that left. -/
def after (d : Subscription) : ChannelEvent → Subscription
  | .published x =>
    if d.live = false then d
    else if d.HasRoom then { d with due := d.due ++ [x] }
    else { d with missed := d.missed + 1 }
  | .asked => if d.live = true ∧ d.waiting ≠ [] then { d with taken := d.taken + 1 } else d
  | .left => { d with live := false }

theorem missed_asked (d : Subscription) : (d.after .asked).missed = d.missed := by
  unfold after
  dsimp only
  split <;> rfl

/-- The snapshots that were published to a subscriber before it left. -/
def offered : List ChannelEvent → List Snapshot
  | [] => []
  | .published x :: es => x :: offered es
  | .asked :: es => offered es
  | .left :: _ => []

variable {d : Subscription}

theorem published_of_left (hl : d.live = false) (x : Snapshot) : d.after (.published x) = d :=
  if_pos hl

theorem published_of_hasRoom (hl : d.live = true) (h : d.HasRoom) (x : Snapshot) :
    d.after (.published x) = { d with due := d.due ++ [x] } :=
  (if_neg (Bool.not_eq_false _ ▸ hl)).trans (if_pos h)

theorem published_of_full (hl : d.live = true) (h : ¬ d.HasRoom) (x : Snapshot) :
    d.after (.published x) = { d with missed := d.missed + 1 } :=
  (if_neg (Bool.not_eq_false _ ▸ hl)).trans (if_neg h)

theorem asked_of_waiting (hl : d.live = true) (h : d.waiting ≠ []) :
    d.after .asked = { d with taken := d.taken + 1 } := if_pos ⟨hl, h⟩

theorem asked_of_nothing (h : d.live = false ∨ d.waiting = []) : d.after .asked = d :=
  if_neg fun ⟨hl, hw⟩ => h.elim (fun h => nomatch h.symm.trans hl) hw

/-- Nothing is owed to a subscriber that left. -/
theorem foldl_after_of_left (hl : d.live = false) (es : List ChannelEvent) :
    (es.foldl after d).due = d.due ∧ (es.foldl after d).missed = d.missed := by
  induction es generalizing d with
  | nil => exact ⟨rfl, rfl⟩
  | cons e es ih =>
    rw [List.foldl_cons]
    cases e with
    | published x =>
      rw [published_of_left hl]
      exact ih hl
    | asked =>
      rw [asked_of_nothing (.inl hl)]
      exact ih hl
    | left => exact ih (d := d.after .left) rfl

/-- Every snapshot that is published to a subscriber is due to it or missed. -/
theorem foldl_after_of_live (hl : d.live = true) (es : List ChannelEvent) :
    ∃ more, (es.foldl after d).due = d.due ++ more ∧ more.Sublist (offered es) ∧
      more.length + (es.foldl after d).missed = d.missed + (offered es).length := by
  induction es generalizing d with
  | nil => exact ⟨[], (List.append_nil _).symm, .slnil, Nat.zero_add _⟩
  | cons e es ih =>
    rw [List.foldl_cons]
    cases e with
    | published x =>
      by_cases hroom : d.HasRoom
      · rw [published_of_hasRoom hl hroom]
        obtain ⟨more, hdue, hsub, hlength⟩ := ih (d := { d with due := d.due ++ [x] }) hl
        refine ⟨x :: more, hdue.trans (List.append_assoc ..), hsub.cons_cons x, ?_⟩
        simp only [offered, List.length_cons] at hlength ⊢
        omega
      · rw [published_of_full hl hroom]
        obtain ⟨more, hdue, hsub, hlength⟩ := ih (d := { d with missed := d.missed + 1 }) hl
        refine ⟨more, hdue, hsub.cons x, ?_⟩
        simp only [offered, List.length_cons] at hlength ⊢
        omega
    | asked =>
      by_cases hw : d.waiting = []
      · rw [asked_of_nothing (.inr hw)]
        exact ih hl
      · rw [asked_of_waiting hl hw]
        exact ih (d := { d with taken := d.taken + 1 }) hl
    | left =>
      obtain ⟨hdue, hmissed⟩ := foldl_after_of_left (d := d.after .left) rfl es
      refine ⟨[], hdue.trans (List.append_nil _).symm, .slnil, ?_⟩
      rw [hmissed]
      exact Nat.zero_add _

end Subscription

/-! ## Lives -/

namespace ChannelCall

def capacity? : ChannelCall → Option Nat
  | subscribe capacity => some capacity
  | _ => none

def isPublish : ChannelCall → Bool
  | publish _ => true
  | _ => false

/-- What a call is to the subscriber of a given number, if it concerns it. -/
def event? (index : Nat) : ChannelCall → Option ChannelEvent
  | subscribe _ => none
  | publish x => some (.published x)
  | receive i => if i = index then some .asked else none
  | drop i => if i = index then some .left else none

/-- The capacities that were asked for, by the number of the subscriber. -/
def capacities (xs : List ChannelCall) : List Nat := xs.filterMap capacity?

/-- The calls after a subscription. -/
def since : Nat → List ChannelCall → List ChannelCall
  | _, [] => []
  | 0, subscribe _ :: xs => xs
  | index + 1, subscribe _ :: xs => since index xs
  | index, _ :: xs => since index xs

/-- What happens to a subscriber once it has subscribed. -/
def life (index : Nat) (xs : List ChannelCall) : List ChannelEvent :=
  (since index xs).filterMap (event? index)

/-- The subscriptions that some calls made, by the number of the subscriber. -/
def subscriptions (xs : List ChannelCall) : List Subscription :=
  (capacities xs).mapIdx fun index capacity =>
    (life index xs).foldl Subscription.after (.ofCapacity capacity)

theorem since_append {index : Nat} {xs : List ChannelCall} (h : index < (capacities xs).length)
    (ys : List ChannelCall) : since index (xs ++ ys) = since index xs ++ ys := by
  induction xs generalizing index with
  | nil => cases h
  | cons x xs ih =>
    cases x with
    | subscribe capacity =>
      cases index with
      | zero => rfl
      | succ index => exact ih (Nat.lt_of_succ_lt_succ h)
    | publish s => exact ih h
    | receive i => exact ih h
    | drop i => exact ih h

theorem since_subscribed (xs : List ChannelCall) (capacity : Nat) :
    since (capacities xs).length (xs ++ [subscribe capacity]) = [] := by
  induction xs with
  | nil => rfl
  | cons x xs ih => cases x <;> exact ih

/-- A call that concerns a subscriber is one more event of its life. -/
theorem life_append_singleton {index : Nat} {xs : List ChannelCall}
    (h : index < (capacities xs).length) (x : ChannelCall) :
    life index (xs ++ [x]) = life index xs ++ (event? index x).toList := by
  unfold life
  rw [since_append h, List.filterMap_append]
  cases hx : event? index x <;> simp [hx]

/-- A call that is no subscription is one more event for those whom it concerns. -/
theorem subscriptions_append_singleton {xs : List ChannelCall} {x : ChannelCall}
    (hx : x.capacity? = none) :
    subscriptions (xs ++ [x]) =
      (subscriptions xs).mapIdx fun index d =>
        (event? index x).toList.foldl Subscription.after d := by
  have hcapacities : capacities (xs ++ [x]) = capacities xs := by simp [capacities, hx]
  unfold subscriptions
  rw [hcapacities]
  apply List.ext_getElem?
  intro index
  rw [List.getElem?_mapIdx, List.getElem?_mapIdx, List.getElem?_mapIdx, Option.map_map]
  cases hc : (capacities xs)[index]? with
  | none => rfl
  | some capacity =>
    have hindex := (List.getElem?_eq_some_iff.1 hc).1
    simp [life_append_singleton hindex]

/-- Only publications are missed. -/
theorem map_missed_append_singleton {xs : List ChannelCall} {x : ChannelCall}
    (hx : x.capacity? = none) (hpublish : x.isPublish = false) :
    (subscriptions (xs ++ [x])).map Subscription.missed =
      (subscriptions xs).map Subscription.missed := by
  rw [subscriptions_append_singleton hx]
  apply List.ext_getElem?
  intro i
  rw [List.getElem?_map, List.getElem?_map, List.getElem?_mapIdx, Option.map_map]
  congr 1
  funext d
  cases x with
  | subscribe capacity => cases hx
  | publish s => cases hpublish
  | receive index => by_cases hi : index = i <;> simp [event?, hi, Subscription.missed_asked]
  | drop index => by_cases hi : index = i <;> simp [event?, hi, Subscription.after]

theorem subscriptions_subscribe (xs : List ChannelCall) (capacity : Nat) :
    subscriptions (xs ++ [subscribe capacity]) = subscriptions xs ++ [.ofCapacity capacity] := by
  have hcapacities : capacities (xs ++ [subscribe capacity]) = capacities xs ++ [capacity] := by
    simp [capacities, capacity?]
  unfold subscriptions
  rw [hcapacities, List.mapIdx_append]
  congr 1
  · apply List.ext_getElem?
    intro index
    rw [List.getElem?_mapIdx, List.getElem?_mapIdx]
    cases hc : (capacities xs)[index]? with
    | none => rfl
    | some capacity' =>
      have hindex := (List.getElem?_eq_some_iff.1 hc).1
      simp [life_append_singleton hindex, event?]
  · have hlife : life (capacities xs).length (xs ++ [subscribe capacity]) = [] := by
      rw [life, since_subscribed]
      rfl
    simp [hlife]

end ChannelCall

/-! ## Channels -/

namespace Subscriber

def Received.snapshot? : Received → Option Snapshot
  | snapshot x => some x
  | _ => none

/-- A channel after something happened to its subscriber. -/
def after (s : Subscriber) : ChannelEvent → Subscriber
  | .published x => s.offer x
  | .asked => s.receive.2
  | .left => s.drop

variable {s : Subscriber}

theorem offer_of_left (h : s.listening = false) (x : Snapshot) :
    (s.offer x).capacity = s.capacity ∧ (s.offer x).listening = false ∧
      (s.offer x).attached = false := by
  unfold offer
  cases ha : s.attached <;> simp [h, ha]

theorem offer_of_room (hl : s.listening = true) (ha : s.attached = true)
    (h : ¬ s.capacity ≤ s.queue.length) (x : Snapshot) :
    s.offer x = { s with queue := s.queue ++ [x] } := by
  simp [offer, hl, ha, h]

theorem offer_of_full (hl : s.listening = true) (ha : s.attached = true)
    (h : s.capacity ≤ s.queue.length) (x : Snapshot) : s.offer x = s := by
  simp [offer, hl, ha, h]

theorem receive_of_left (h : s.listening = false) : s.receive = (.unsubscribed, s) := by
  simp [receive, h]

theorem receive_of_cons (hl : s.listening = true) {x : Snapshot} {rest : List Snapshot}
    (h : s.queue = x :: rest) : s.receive = (.snapshot x, { s with queue := rest }) := by
  simp [receive, hl, h]

theorem receive_of_nil (hl : s.listening = true) (ha : s.attached = true) (h : s.queue = []) :
    s.receive = (.empty, s) := by
  simp [receive, hl, ha, h]

end Subscriber

namespace Subscription

/-- What a receiver finds. -/
def answer (d : Subscription) : Subscriber.Received :=
  if d.live = false then .unsubscribed
  else
    match d.waiting with
    | x :: _ => .snapshot x
    | [] => .empty

variable {d : Subscription}

/-- What is received is the next snapshot that is due. -/
theorem received_asked (d : Subscription) :
    (d.after .asked).received = d.received ++ d.answer.snapshot?.toList := by
  unfold answer
  cases hl : d.live with
  | false =>
    rw [asked_of_nothing (.inl hl)]
    exact (List.append_nil _).symm
  | true =>
    cases hw : d.waiting with
    | nil =>
      rw [asked_of_nothing (.inr hw)]
      exact (List.append_nil _).symm
    | cons x rest =>
      have hnext : d.due[d.taken]? = some x := by
        rw [← List.head?_drop]
        exact congrArg List.head? hw
      rw [asked_of_waiting hl (by rw [hw]; exact List.cons_ne_nil _ _)]
      show d.due.take (d.taken + 1) = d.due.take d.taken ++ [x]
      rw [List.take_add_one, hnext]
      rfl

theorem received_published (h : d.taken ≤ d.due.length) (x : Snapshot) :
    (d.after (.published x)).received = d.received := by
  cases hl : d.live with
  | false => rw [published_of_left hl]
  | true =>
    by_cases hroom : d.HasRoom
    · rw [published_of_hasRoom hl hroom]
      exact List.take_append_of_le_length h
    · rw [published_of_full hl hroom]
      rfl

theorem missed_published (d : Subscription) (x : Snapshot) :
    (d.after (.published x)).missed = d.missed + if d.live = true ∧ ¬ d.HasRoom then 1 else 0 := by
  cases hl : d.live with
  | false => simp [published_of_left hl]
  | true => by_cases hroom : d.HasRoom <;> simp [published_of_hasRoom, published_of_full, hl, hroom]

end Subscription

/-- The channel of a subscriber holds what is due to it and was not received. -/
structure Serves (d : Subscription) (s : Subscriber) : Prop where
  capacity : s.capacity = max d.capacity 1
  listening : s.listening = d.live
  taken_le : d.taken ≤ d.due.length
  attached : d.live = true → s.attached = true
  queue : d.live = true → s.queue = d.waiting

namespace Serves

variable {d : Subscription} {s : Subscriber}

theorem ofCapacity (capacity : Nat) : Serves (.ofCapacity capacity) (.ofCapacity capacity) :=
  ⟨rfl, rfl, Nat.le_refl _, fun _ => rfl, fun _ => rfl⟩

/-- Nothing more is asked of the channel of a subscriber that left. -/
theorem of_left (hl : d.live = false) (capacity : s.capacity = max d.capacity 1)
    (listening : s.listening = false) (taken_le : d.taken ≤ d.due.length) : Serves d s :=
  ⟨capacity, listening.trans hl.symm, taken_le, fun h => (nomatch hl.symm.trans h),
    fun h => (nomatch hl.symm.trans h)⟩

variable (h : Serves d s)

include h

theorem fst_receive : s.receive.1 = d.answer := by
  have hlistening := h.listening
  unfold Subscription.answer
  cases hl : d.live with
  | false => rw [Subscriber.receive_of_left (hlistening.trans hl), if_pos rfl]
  | true =>
    have hqueue := h.queue hl
    rw [hl] at hlistening
    cases hw : d.waiting with
    | nil =>
      rw [Subscriber.receive_of_nil hlistening (h.attached hl) (hqueue.trans hw)]
      rfl
    | cons x rest =>
      rw [Subscriber.receive_of_cons hlistening (hqueue.trans hw)]
      rfl

theorem hasRoom_iff (hl : d.live = true) : d.HasRoom ↔ ¬ s.capacity ≤ s.queue.length := by
  rw [h.capacity, h.queue hl]
  exact Nat.not_le.symm

/-- The channels that refuse a snapshot are those of live subscribers without room. -/
theorem refuses_iff : s.refuses = true ↔ d.live = true ∧ ¬ d.HasRoom := by
  unfold Subscriber.refuses
  rw [h.listening]
  cases hl : d.live with
  | false => simp
  | true =>
    rw [h.attached hl, h.hasRoom_iff hl]
    simp

theorem published (x : Snapshot) : Serves (d.after (.published x)) (s.offer x) := by
  have hlistening := h.listening
  cases hl : d.live with
  | false =>
    obtain ⟨hcapacity, hoffered, -⟩ := Subscriber.offer_of_left (hlistening.trans hl) x
    rw [Subscription.published_of_left hl]
    exact .of_left hl (hcapacity.trans h.capacity) hoffered h.taken_le
  | true =>
    have hattached := h.attached hl
    rw [hl] at hlistening
    by_cases hroom : d.HasRoom
    · rw [Subscription.published_of_hasRoom hl hroom,
        Subscriber.offer_of_room hlistening hattached ((h.hasRoom_iff hl).1 hroom)]
      refine ⟨h.capacity, h.listening, ?_, h.attached, fun _ => ?_⟩
      · rw [List.length_append]
        exact Nat.le_add_right_of_le h.taken_le
      · rw [h.queue hl]
        exact (List.drop_append_of_le_length h.taken_le).symm
    · have hfull : s.capacity ≤ s.queue.length := not_not.1 (mt (h.hasRoom_iff hl).2 hroom)
      rw [Subscription.published_of_full hl hroom,
        Subscriber.offer_of_full hlistening hattached hfull]
      exact ⟨h.capacity, h.listening, h.taken_le, h.attached, h.queue⟩

theorem asked : Serves (d.after .asked) s.receive.2 := by
  have hlistening := h.listening
  cases hl : d.live with
  | false =>
    rw [Subscription.asked_of_nothing (.inl hl), Subscriber.receive_of_left (hlistening.trans hl)]
    exact h
  | true =>
    have hqueue := h.queue hl
    rw [hl] at hlistening
    cases hw : d.waiting with
    | nil =>
      rw [Subscription.asked_of_nothing (.inr hw),
        Subscriber.receive_of_nil hlistening (h.attached hl) (hqueue.trans hw)]
      exact h
    | cons x rest =>
      have hlength := congrArg List.length hw
      simp only [Subscription.waiting, List.length_drop, List.length_cons] at hlength
      rw [Subscription.asked_of_waiting hl (by rw [hw]; exact List.cons_ne_nil _ _),
        Subscriber.receive_of_cons hlistening (hqueue.trans hw)]
      refine ⟨h.capacity, h.listening, by dsimp only; omega, h.attached, fun _ => ?_⟩
      have hrest : rest = d.waiting.tail := (congrArg List.tail hw).symm
      exact hrest.trans List.tail_drop

theorem left : Serves (d.after .left) s.drop := .of_left rfl h.capacity rfl h.taken_le

theorem after (e : ChannelEvent) : Serves (d.after e) (s.after e) := by
  cases e with
  | published x => exact h.published x
  | asked => exact h.asked
  | left => exact h.left

end Serves

/-! ## Runs -/

namespace ProcessData

/-- A call that is no subscription happens to the channels of those whom it concerns. -/
theorem subscribers_receive (p : ProcessData) (index : Nat) :
    (p.receive index).2.subscribers = p.subscribers.mapIdx fun i s =>
      ((ChannelCall.receive index).event? i).toList.foldl Subscriber.after s := by
  apply List.ext_getElem?
  intro i
  unfold receive
  rw [List.getElem?_mapIdx]
  cases hs : p.subscribers[index]? with
  | none =>
    by_cases hi : index = i
    · subst hi
      simp [hs]
    · simp [ChannelCall.event?, hi]
  | some s =>
    by_cases hi : index = i
    · subst hi
      obtain ⟨hlt, hget⟩ := List.getElem?_eq_some_iff.1 hs
      simp [ChannelCall.event?, hlt, hget, Subscriber.after]
    · simp [ChannelCall.event?, hi, List.getElem?_set_ne hi]

theorem subscribers_unsubscribe (p : ProcessData) (index : Nat) :
    (p.unsubscribe index).subscribers = p.subscribers.mapIdx fun i s =>
      ((ChannelCall.drop index).event? i).toList.foldl Subscriber.after s := by
  apply List.ext_getElem?
  intro i
  unfold unsubscribe
  rw [List.getElem?_mapIdx, List.getElem?_modify]
  by_cases hi : index = i <;> simp [ChannelCall.event?, hi, Subscriber.after]

theorem subscribers_publish (p : ProcessData) (x : Snapshot) :
    (p.publish x true true).subscribers = p.subscribers.mapIdx fun i s =>
      ((ChannelCall.publish x).event? i).toList.foldl Subscriber.after s := by
  apply List.ext_getElem?
  intro i
  rw [List.getElem?_mapIdx]
  exact List.getElem?_map

theorem counters_receive (p : ProcessData) (index : Nat) :
    (p.receive index).2.published = p.published ∧
      (p.receive index).2.subscriberDrops = p.subscriberDrops := by
  unfold receive
  split <;> exact ⟨rfl, rfl⟩

end ProcessData

/-- Process data, and what was received so far, each with the number of the subscriber. -/
structure ChannelRun where
  data : ProcessData
  received : List (Nat × Snapshot)

namespace ChannelRun

def fresh (t : Topology) : ChannelRun := ⟨.ofTopology t, []⟩

def call (r : ChannelRun) : ChannelCall → ChannelRun
  | .subscribe capacity => { r with data := r.data.subscribe capacity }
  | .publish x => { r with data := r.data.publish x true true }
  | .receive index =>
    ⟨(r.data.receive index).2,
      r.received ++ (r.data.receive index).1.snapshot?.toList.map fun x => (index, x)⟩
  | .drop index => { r with data := r.data.unsubscribe index }

def calls (r : ChannelRun) (xs : List ChannelCall) : ChannelRun := xs.foldl call r

/-- What a subscriber received. -/
def receivedBy (r : ChannelRun) (index : Nat) : List Snapshot :=
  (r.received.filter (·.1 = index)).map (·.2)

theorem calls_append (r : ChannelRun) (xs ys : List ChannelCall) :
    r.calls (xs ++ ys) = (r.calls xs).calls ys := List.foldl_append

theorem subscribers_call (r : ChannelRun) {x : ChannelCall} (hx : x.capacity? = none) :
    (r.call x).data.subscribers = r.data.subscribers.mapIdx fun i s =>
      (x.event? i).toList.foldl Subscriber.after s := by
  cases x with
  | subscribe capacity => cases hx
  | publish s => exact r.data.subscribers_publish s
  | receive index => exact r.data.subscribers_receive index
  | drop index => exact r.data.subscribers_unsubscribe index

theorem receivedBy_receive (r : ChannelRun) (index i : Nat) :
    (r.call (.receive index)).receivedBy i = r.receivedBy i ++
      if index = i then (r.data.receive index).1.snapshot?.toList else [] := by
  unfold receivedBy call
  rw [List.filter_append, List.map_append]
  congr 1
  by_cases hi : index = i
  · cases hgot : (r.data.receive index).1.snapshot? <;> simp [hi]
  · simp [hi]

end ChannelRun

/-- What holds of a run: each channel serves its subscription, and the counters count. -/
structure ChannelInv (xs : List ChannelCall) (r : ChannelRun) : Prop where
  serves : List.Forall₂ Serves (ChannelCall.subscriptions xs) r.data.subscribers
  received : ∀ i, r.receivedBy i =
    ((ChannelCall.subscriptions xs)[i]?.map Subscription.received).getD []
  published : r.data.published = .ofNat (xs.countP ChannelCall.isPublish)
  subscriberDrops : r.data.subscriberDrops =
    .ofNat ((ChannelCall.subscriptions xs).map Subscription.missed).sum

theorem forall₂_mapIdx {α β : Type} {R : α → β → Prop} {as : List α} {bs : List β}
    (h : List.Forall₂ R as bs) {f : Nat → α → α} {g : Nat → β → β}
    (hfg : ∀ i a b, R a b → R (f i a) (g i b)) :
    List.Forall₂ R (as.mapIdx f) (bs.mapIdx g) := by
  induction h generalizing f g with
  | nil => exact .nil
  | cons hab _ ih =>
    rw [List.mapIdx_cons, List.mapIdx_cons]
    exact .cons (hfg _ _ _ hab) (ih fun i => hfg (i + 1))

/-- The channels that refuse a publication are those of the subscribers that miss it. -/
theorem sum_missed_published {ds : List Subscription} {ss : List Subscriber}
    (h : List.Forall₂ Serves ds ss) (x : Snapshot) :
    ((ds.map (·.after (.published x))).map Subscription.missed).sum =
      (ds.map Subscription.missed).sum + ss.countP Subscriber.refuses := by
  induction h with
  | nil => rfl
  | cons h _ ih =>
    simp only [List.map_cons, List.sum_cons, List.countP_cons, Subscription.missed_published,
      h.refuses_iff]
    omega

namespace ChannelInv

variable {xs : List ChannelCall} {r : ChannelRun}

theorem fresh (t : Topology) : ChannelInv [] (.fresh t) := ⟨.nil, fun _ => rfl, rfl, rfl⟩

variable (inv : ChannelInv xs r)

include inv

theorem serves_getElem? {i : Nat} {d : Subscription}
    (hd : (ChannelCall.subscriptions xs)[i]? = some d) :
    ∃ s, r.data.subscribers[i]? = some s ∧ Serves d s := by
  obtain ⟨hi, rfl⟩ := List.getElem?_eq_some_iff.1 hd
  have hi' : i < r.data.subscribers.length := inv.serves.length_eq ▸ hi
  exact ⟨_, List.getElem?_eq_getElem hi', inv.serves.get hi hi'⟩

/-- What a receiver finds, if it ever was subscribed. -/
theorem fst_receive (i : Nat) :
    (r.data.receive i).1 =
      ((ChannelCall.subscriptions xs)[i]?.map Subscription.answer).getD .unsubscribed := by
  unfold ProcessData.receive
  cases hd : (ChannelCall.subscriptions xs)[i]? with
  | none =>
    have hs : r.data.subscribers[i]? = none := by
      rw [List.getElem?_eq_none_iff] at hd ⊢
      exact inv.serves.length_eq ▸ hd
    rw [hs]
    rfl
  | some d =>
    obtain ⟨s, hs, hserves⟩ := inv.serves_getElem? hd
    rw [hs]
    exact hserves.fst_receive

theorem subscribe (capacity : Nat) :
    ChannelInv (xs ++ [.subscribe capacity]) (r.call (.subscribe capacity)) := by
  have hsubscriptions := ChannelCall.subscriptions_subscribe xs capacity
  refine ⟨?_, fun i => ?_, ?_, ?_⟩
  · rw [hsubscriptions]
    exact List.rel_append inv.serves (.cons (.ofCapacity capacity) .nil)
  · rw [hsubscriptions]
    refine (inv.received i).trans ?_
    rcases Nat.lt_trichotomy i (ChannelCall.subscriptions xs).length with hlt | rfl | hgt
    · rw [List.getElem?_append_left hlt]
    · simp [Subscription.ofCapacity, Subscription.received]
    · rw [List.getElem?_eq_none (Nat.le_of_lt hgt), List.getElem?_eq_none]
      rw [List.length_append]
      exact hgt
  · rw [List.countP_append]
    exact inv.published
  · rw [hsubscriptions, List.map_append, List.sum_append]
    exact inv.subscriberDrops

/-- The channels after a call that is no subscription. -/
theorem serves_call {x : ChannelCall} (hx : x.capacity? = none) :
    List.Forall₂ Serves (ChannelCall.subscriptions (xs ++ [x])) (r.call x).data.subscribers := by
  rw [ChannelCall.subscriptions_append_singleton hx, r.subscribers_call hx]
  refine forall₂_mapIdx inv.serves fun i d s h => ?_
  cases x.event? i with
  | none => exact h
  | some e => exact h.after e

theorem publish (x : Snapshot) : ChannelInv (xs ++ [.publish x]) (r.call (.publish x)) := by
  have hsubscriptions : ChannelCall.subscriptions (xs ++ [.publish x]) =
      (ChannelCall.subscriptions xs).map (·.after (.published x)) := by
    rw [ChannelCall.subscriptions_append_singleton rfl]
    exact List.mapIdx_eq_iff.2 fun i => List.getElem?_map
  refine ⟨inv.serves_call rfl, fun i => ?_, ?_, ?_⟩
  · refine (inv.received i).trans ?_
    rw [hsubscriptions, List.getElem?_map]
    cases hd : (ChannelCall.subscriptions xs)[i]? with
    | none => rfl
    | some d =>
      obtain ⟨s, -, hserves⟩ := inv.serves_getElem? hd
      exact (Subscription.received_published hserves.taken_le x).symm
  · show r.data.published + 1 = _
    rw [List.countP_append, inv.published, UInt64.ofNat_add]
    rfl
  · show r.data.subscriberDrops + .ofNat (r.data.subscribers.countP Subscriber.refuses) = _
    rw [hsubscriptions, sum_missed_published inv.serves, inv.subscriberDrops, UInt64.ofNat_add]

/-- A call that concerns one receiver leaves the counters alone. -/
theorem counted {x : ChannelCall} (hx : x.capacity? = none) (hpublish : x.isPublish = false)
    (hpublished : (r.call x).data.published = r.data.published)
    (hdrops : (r.call x).data.subscriberDrops = r.data.subscriberDrops)
    (hreceived : ∀ i, (r.call x).receivedBy i =
      ((ChannelCall.subscriptions (xs ++ [x]))[i]?.map Subscription.received).getD []) :
    ChannelInv (xs ++ [x]) (r.call x) := by
  refine ⟨inv.serves_call hx, hreceived, ?_, ?_⟩
  · rw [hpublished, inv.published, List.countP_append, List.countP_cons_of_neg (by simp [hpublish])]
    rfl
  · rw [hdrops, inv.subscriberDrops, ChannelCall.map_missed_append_singleton hx hpublish]

theorem receive (index : Nat) : ChannelInv (xs ++ [.receive index]) (r.call (.receive index)) := by
  obtain ⟨hpublished, hdrops⟩ := r.data.counters_receive index
  refine inv.counted rfl rfl hpublished hdrops fun i => ?_
  rw [r.receivedBy_receive, inv.fst_receive, inv.received,
    ChannelCall.subscriptions_append_singleton rfl, List.getElem?_mapIdx]
  by_cases hi : index = i
  · subst hi
    rw [if_pos rfl, ChannelCall.event?, if_pos rfl]
    cases (ChannelCall.subscriptions xs)[index]? with
    | none => rfl
    | some d => exact d.received_asked.symm
  · rw [if_neg hi, ChannelCall.event?, if_neg hi, List.append_nil]
    cases (ChannelCall.subscriptions xs)[i]? <;> rfl

theorem drop (index : Nat) : ChannelInv (xs ++ [.drop index]) (r.call (.drop index)) := by
  refine inv.counted rfl rfl rfl rfl fun i => (inv.received i).trans ?_
  rw [ChannelCall.subscriptions_append_singleton rfl, List.getElem?_mapIdx, ChannelCall.event?]
  cases (ChannelCall.subscriptions xs)[i]? with
  | none => rfl
  | some d => split <;> rfl

theorem call (x : ChannelCall) : ChannelInv (xs ++ [x]) (r.call x) := by
  cases x with
  | subscribe capacity => exact inv.subscribe capacity
  | publish x => exact inv.publish x
  | receive index => exact inv.receive index
  | drop index => exact inv.drop index

omit inv in
theorem calls (t : Topology) (xs : List ChannelCall) :
    ChannelInv xs ((ChannelRun.fresh t).calls xs) := by
  induction xs using List.reverseRecOn with
  | nil => exact .fresh t
  | append_singleton xs x ih =>
    rw [ChannelRun.calls_append]
    exact ih.call x

/-- As many receives as snapshots wait bring all that is due. -/
theorem receivedBy_drained {i : Nat} {d : Subscription}
    (hd : (ChannelCall.subscriptions xs)[i]? = some d) (hl : d.live = true) {n : Nat}
    (hn : d.waiting.length = n) :
    (r.calls (List.replicate n (.receive i))).receivedBy i = d.due := by
  induction n generalizing xs r d with
  | zero =>
    have hall : d.due.length ≤ d.taken := by
      rw [Subscription.waiting, List.length_drop] at hn
      omega
    show r.receivedBy i = d.due
    rw [inv.received, hd]
    exact List.take_of_length_le hall
  | succ n ih =>
    have hwaiting : d.waiting ≠ [] := List.ne_nil_of_length_eq_add_one hn
    have hasked : (ChannelCall.subscriptions (xs ++ [.receive i]))[i]? =
        some { d with taken := d.taken + 1 } := by
      rw [ChannelCall.subscriptions_append_singleton rfl, List.getElem?_mapIdx, hd,
        ← Subscription.asked_of_waiting hl hwaiting]
      simp [ChannelCall.event?]
    refine ih (d := { d with taken := d.taken + 1 }) (inv.receive i) hasked hl ?_
    simp only [Subscription.waiting, List.length_drop] at hn ⊢
    omega

end ChannelInv

/-! ## Every run -/

/-- What some calls do for the subscriber of a given number. -/
structure DeliversTo (xs : List ChannelCall) (r : ChannelRun) (index : Nat) (d : Subscription) :
    Prop where
  /-- It received what is due to it up to a point, and its channel holds the rest. -/
  received : r.receivedBy index = d.due.take d.taken
  waiting : d.live = true → ∃ s, r.data.subscribers[index]? = some s ∧ s.attached = true ∧
    s.capacity = max d.capacity 1 ∧ s.queue = d.due.drop d.taken
  /-- The next receive brings the next snapshot, and as many as wait bring all. -/
  next : (r.data.receive index).1 = d.answer
  drained : d.live = true →
    (r.calls (List.replicate d.waiting.length (.receive index))).receivedBy index = d.due
  /-- What is due was published to it, in this order; all else that was published to it found no
  room. -/
  inOrder : d.due.Sublist (Subscription.offered (ChannelCall.life index xs))
  all : d.due.length + d.missed = (Subscription.offered (ChannelCall.life index xs)).length
  /-- The next publication forgets a receiver that was dropped. -/
  forgotten : d.live = false → ∀ x, ∃ s, (r.call (.publish x)).data.subscribers[index]? = some s ∧
    s.attached = false
  /-- Other subscribers make no difference. -/
  alone : ∀ (t : Topology) (ys : List ChannelCall),
    (ChannelCall.capacities ys)[index]? = (ChannelCall.capacities xs)[index]? →
    ChannelCall.life index ys = ChannelCall.life index xs →
    ((ChannelRun.fresh t).calls ys).receivedBy index = r.receivedBy index ∧
      (((ChannelRun.fresh t).calls ys).data.receive index).1 = (r.data.receive index).1

/-- What some calls do for all subscribers. The counters are words. -/
structure Delivers (xs : List ChannelCall) (r : ChannelRun) : Prop where
  published : r.data.published = .ofNat (xs.countP ChannelCall.isPublish)
  /-- The publications that found the channel of a live subscriber full. -/
  subscriberDrops : r.data.subscriberDrops =
    .ofNat ((ChannelCall.subscriptions xs).map Subscription.missed).sum
  each : ∀ index d, (ChannelCall.subscriptions xs)[index]? = some d → DeliversTo xs r index d

/-- **Subscribers receive what is due to them**, whatever they and others do: in order, each
snapshot once, and all but those that find no room. -/
theorem calls_deliver (t : Topology) (xs : List ChannelCall) :
    Delivers xs ((ChannelRun.fresh t).calls xs) := by
  have inv := ChannelInv.calls t xs
  refine ⟨inv.published, inv.subscriberDrops, fun i d hd => ?_⟩
  obtain ⟨s, hs, hserves⟩ := inv.serves_getElem? hd
  obtain ⟨more, hdue, hsub, hlength⟩ :
      ∃ more, d.due = [] ++ more ∧ more.Sublist (Subscription.offered (ChannelCall.life i xs)) ∧
        more.length + d.missed = 0 + (Subscription.offered (ChannelCall.life i xs)).length := by
    rw [ChannelCall.subscriptions, List.getElem?_mapIdx] at hd
    obtain ⟨capacity, -, rfl⟩ := Option.map_eq_some_iff.1 hd
    exact Subscription.foldl_after_of_live rfl _
  rw [List.nil_append] at hdue
  rw [Nat.zero_add] at hlength
  subst hdue
  refine
    { received := ?_
      waiting := fun hl => ⟨s, hs, hserves.attached hl, hserves.capacity, hserves.queue hl⟩
      next := ?_
      drained := fun hl => inv.receivedBy_drained hd hl rfl
      inOrder := hsub
      all := hlength
      forgotten := fun hl x => ?_
      alone := fun t' ys hcapacity hlife => ?_ }
  · rw [inv.received, hd]
    rfl
  · rw [inv.fst_receive, hd]
    rfl
  · refine ⟨s.offer x, ?_, (Subscriber.offer_of_left (hserves.listening.trans hl) x).2.2⟩
    exact List.getElem?_map.trans (congrArg (Option.map (·.offer x)) hs)
  · have hsame : (ChannelCall.subscriptions ys)[i]? = (ChannelCall.subscriptions xs)[i]? := by
      rw [ChannelCall.subscriptions, ChannelCall.subscriptions, List.getElem?_mapIdx,
        List.getElem?_mapIdx, hcapacity, hlife]
    have inv' := ChannelInv.calls t' ys
    exact ⟨by rw [inv'.received, inv.received, hsame],
      by rw [inv'.fst_receive, inv.fst_receive, hsame]⟩

/-- A snapshot of no devices. -/
def bareSnapshot (cycle : UInt64) : Snapshot := ⟨cycle, 1000 * cycle, [], []⟩

/-- A slow subscriber that asked for no room, one that leaves, and one that comes late. -/
def slowAndGone : List ChannelCall :=
  [.subscribe 0, .subscribe 2, .publish (bareSnapshot 1), .publish (bareSnapshot 2), .receive 0,
    .drop 1, .publish (bareSnapshot 3), .receive 0, .subscribe 1, .publish (bareSnapshot 4)]

theorem calls_deliver_of_slowAndGone :
    let r := (ChannelRun.fresh .pair).calls slowAndGone
    Delivers slowAndGone r ∧ r.data.published = 4 ∧ r.data.subscriberDrops = 1 ∧
      r.receivedBy 0 = [bareSnapshot 1, bareSnapshot 3] ∧
      r.data.subscribers.map (·.attached) = [true, false, true] ∧
      r.data.subscribers.map (·.queue.map (·.cycle)) = [[4], [], [4]] :=
  ⟨calls_deliver _ _, by decide +kernel, by decide +kernel, by decide +kernel, by decide +kernel,
    by decide +kernel⟩

end CyclicBus
