import GuardedSql.Proofs.Resources
import Mathlib.Data.List.Basic
import Mathlib.Data.List.Induction

/-!
# The boxes of registered functions

A registration makes a box for its closure or aggregate on the heap and gives it to the engine,
together with the way to destroy it. From then on the box is the engine's, which destroys it when the
registration fails, when another one replaces it, or when its connection is closed. What came without
a destructor is left on the heap. Which registration replaces which is for the engine to say. What
has become of the heap is told from the calls and their answers.
-/

namespace GuardedSql

/-- What a function is registered as. -/
structure Registration where
  /-- The connection. -/
  connection : ConnectionHandle
  /-- The name. -/
  name : String
  /-- The number of arguments. -/
  arity : Int32
  deriving DecidableEq

/-- A box that the engine was given. -/
structure Box where
  /-- What it was given for. -/
  registration : Registration
  /-- Its address on the heap. -/
  data : UserData
  /-- What to call when it is not needed any more, if there is such a thing. -/
  destructor : Option Destructor

/-- The engine has no need for a box: it calls the destructor, or leaves the box where it is. -/
def Box.discard (box : Box) (heap : Heap) : Heap :=
  match box.destructor with
  | some destructor => destructor box.data heap
  | none => heap

/-- The heap, with the boxes on it that the engine has. -/
structure Boxes where
  /-- The heap. -/
  heap : Heap := {}
  /-- The boxes that the engine has. -/
  kept : List Box := []

namespace Boxes

variable (b : Boxes)

/-- The engine has no need for the boxes of some registrations. -/
def discard (p : Registration → Bool) : Boxes where
  heap := (b.kept.filter fun box => p box.registration).foldl (fun heap box => box.discard heap) b.heap
  kept := b.kept.filter fun box => !p box.registration

/-- What an engine that keeps to its word does with the boxes in a call, if a registration of the
same connection is replaced as `replaces` says; and what is done with them on the heap itself. -/
def after (replaces : Registration → Registration → Bool) : Exchange → Boxes
  | ⟨.makeBox _, data⟩ => { b with heap := b.heap.make data }
  | ⟨.dropBox data, _⟩ => { b with heap := b.heap.drop data }
  | ⟨.createFunction c name arity _ _ data destructor, code⟩ =>
    let box : Box := ⟨⟨c, name, arity⟩, data, destructor⟩
    if code = Code.ok then
      let rest := b.discard fun old => old.connection = c && replaces old box.registration
      { rest with kept := box :: rest.kept }
    else { b with heap := box.discard b.heap }
  | ⟨.closeConnection c, code⟩ => if code = Code.ok then b.discard (·.connection = c) else b
  | _ => b

end Boxes

namespace History

/-- What has become of the boxes after some calls. -/
def boxes (replaces : Registration → Registration → Bool) (H : History) : Boxes :=
  H.foldl (·.after replaces) {}

/-- What some calls have to do with boxes: nothing, or one is made and given to the engine at once,
with the destructor that drops it. -/
inductive Boxed : History → Prop where
  | apart {d : History} (h : ∀ x ∈ d, x.call.handlesBox = false) : Boxed d
  | registered (callbacks : Callbacks) (data : UserData) (c : ConnectionHandle) (name : String)
      (arity : Int32) (deterministic : Bool) (code : Code) {d : History}
      (h : ∀ x ∈ d, x.call.handlesBox = false) :
      Boxed (⟨.makeBox callbacks, data⟩ ::
        ⟨.createFunction c name arity deterministic callbacks data (some destroy), code⟩ :: d)

end History

namespace Boxes

variable {b : Boxes} {replaces : Registration → Registration → Bool} {x : Exchange}

/-- The boxes are accounted for. -/
structure Accounted (b : Boxes) : Prop where
  /-- As often as one was made at an address, it was dropped or the engine has it. -/
  balance : ∀ p, b.heap.made.count p = b.heap.dropped.count p + b.kept.countP (·.data = p)
  /-- What the engine has came with the destructor that drops it. -/
  destroyed : ∀ box ∈ b.kept, box.destructor = some destroy

/-- Nothing is there at first. -/
theorem Accounted.empty : ({} : Boxes).Accounted where
  balance _ := rfl
  destroyed := by simp

/-- Boxes with that destructor are dropped one by one. -/
theorem foldl_discard {boxes : List Box} (h : ∀ box ∈ boxes, box.destructor = some destroy)
    (heap : Heap) :
    boxes.foldl (fun heap box => box.discard heap) heap =
      { heap with dropped := (boxes.map (·.data)).reverse ++ heap.dropped } := by
  induction boxes generalizing heap with
  | nil => rfl
  | cons box rest ih =>
    have hbox : box.discard heap = heap.drop box.data := by
      rw [Box.discard, h box List.mem_cons_self]
      rfl
    rw [List.foldl_cons, hbox, ih fun other hother => h other (List.mem_cons_of_mem box hother)]
    simp [Heap.drop]

/-- Nothing is made when the engine has no need for some boxes. -/
theorem made_discard (h : ∀ box ∈ b.kept, box.destructor = some destroy) (p : Registration → Bool) :
    (b.discard p).heap.made = b.heap.made := by
  rw [discard, foldl_discard fun box hbox => h box (List.mem_of_mem_filter hbox)]

/-- They are dropped, and the others are left. -/
theorem count_discard (h : ∀ box ∈ b.kept, box.destructor = some destroy) (p : Registration → Bool)
    (data : UserData) :
    (b.discard p).heap.dropped.count data + (b.discard p).kept.countP (·.data = data) =
      b.heap.dropped.count data + b.kept.countP (·.data = data) := by
  have hsplit := List.countP_eq_countP_filter_add b.kept (fun box => decide (box.data = data))
    fun box => p box.registration
  have hmoved : ((b.kept.filter fun box => p box.registration).map (·.data)).count data =
      (b.kept.filter fun box => p box.registration).countP (·.data = data) := by
    rw [List.count_eq_countP, List.countP_map]
    exact List.countP_congr fun box _ => by simp
  rw [discard, foldl_discard fun box hbox => h box (List.mem_of_mem_filter hbox)]
  simp only [List.count_append, List.count_reverse, hmoved]
  omega

theorem Accounted.discard (h : b.Accounted) (p : Registration → Bool) : (b.discard p).Accounted where
  balance data := by
    rw [made_discard h.destroyed, count_discard h.destroyed]
    exact h.balance data
  destroyed box hbox := h.destroyed box (List.mem_of_mem_filter hbox)

/-- What is preserved by a call that has nothing to do with boxes, but may close a connection. -/
theorem Accounted.after_of_apart (h : b.Accounted) (hx : x.call.handlesBox = false) :
    (b.after replaces x).Accounted := by
  obtain ⟨call, reply⟩ := x
  cases call with
  | makeBox content => cases hx
  | dropBox data => cases hx
  | createFunction c name arity deterministic callbacks data destructor => cases hx
  | closeConnection c =>
    rw [Boxes.after]
    split
    · exact h.discard _
    · exact h
  | _ => exact h

/-- What a registration preserves: the engine has the new box, or has dropped it. -/
theorem Accounted.register (h : b.Accounted) (callbacks : Callbacks) (data : UserData)
    (c : ConnectionHandle) (name : String) (arity : Int32) (deterministic : Bool) (code : Code) :
    ((b.after replaces ⟨.makeBox callbacks, data⟩).after replaces
      ⟨.createFunction c name arity deterministic callbacks data (some destroy), code⟩).Accounted := by
  rw [Boxes.after, Boxes.after]
  dsimp only
  split
  · -- The new box is on the heap and is kept, whatever it replaces.
    refine ⟨fun p => ?_, fun box hbox => ?_⟩
    · have hbefore := h.balance p
      have hmade := made_discard (b := { b with heap := b.heap.make data }) h.destroyed
        fun old => old.connection = c && replaces old ⟨c, name, arity⟩
      have hcount := count_discard (b := { b with heap := b.heap.make data }) h.destroyed
        (fun old => old.connection = c && replaces old ⟨c, name, arity⟩) p
      rw [hmade, List.countP_cons, ← Nat.add_assoc, hcount]
      simp only [Heap.make, List.count_cons, beq_iff_eq, decide_eq_true_eq]
      omega
    · rcases List.mem_cons.mp hbox with rfl | hbox
      · rfl
      · exact h.destroyed box (List.mem_of_mem_filter hbox)
  · -- It is dropped by the destructor that it came with.
    refine ⟨fun p => ?_, h.destroyed⟩
    have hbefore := h.balance p
    simp only [Box.discard, destroy, Heap.make, Heap.drop, List.count_cons]
    omega

/-- What some calls preserve that have nothing to do with boxes. -/
theorem Accounted.foldl_of_apart {d : History} (h : b.Accounted)
    (hd : ∀ x ∈ d, x.call.handlesBox = false) : (d.foldl (·.after replaces) b).Accounted := by
  induction d generalizing b with
  | nil => exact h
  | cons x d ih =>
    rw [List.foldl_cons]
    exact ih (h.after_of_apart (hd x List.mem_cons_self)) fun y hy => hd y (List.mem_cons_of_mem x hy)

/-- What dealings with boxes preserve. -/
theorem Accounted.foldl_of_boxed {d : History} (h : b.Accounted) (hd : d.Boxed) :
    (d.foldl (·.after replaces) b).Accounted := by
  cases hd with
  | apart hapart => exact h.foldl_of_apart hapart
  | registered callbacks data c name arity deterministic code hapart =>
    exact (h.register callbacks data c name arity deterministic code).foldl_of_apart hapart

/-- A box that the engine has after a call is of a connection that is not taken back in it, and was
kept before or is handed over in it. -/
theorem mem_kept_after {box : Box} (h : box ∈ (b.after replaces x).kept) :
    x.releases? ≠ some (.connection box.registration.connection) ∧
      (box ∈ b.kept ∨ .connection box.registration.connection ∈ x.call.uses ∧
        x.call.asksReason = false) := by
  obtain ⟨call, reply⟩ := x
  cases call with
  | createFunction c name arity deterministic callbacks data destructor =>
    refine ⟨by simp [Exchange.releases?], ?_⟩
    rw [Boxes.after] at h
    dsimp only at h
    split at h
    · rcases List.mem_cons.mp h with rfl | h
      · exact .inr ⟨by simp [Call.uses], rfl⟩
      · exact .inl (List.mem_of_mem_filter h)
    · exact .inl h
  | closeConnection c =>
    rw [Boxes.after] at h
    split at h
    · rename_i hcode
      obtain ⟨hkept, hother⟩ := List.mem_filter.mp h
      have hne : c ≠ box.registration.connection := by
        rintro rfl
        simp at hother
      exact ⟨by simp [Exchange.releases?, hne], .inl hkept⟩
    · rename_i hcode
      exact ⟨by simp [Exchange.releases?, hcode], .inl h⟩
  | backupFinish p => exact ⟨by simp [Exchange.releases?], .inl h⟩
  | _ => exact ⟨by simp [Exchange.releases?], .inl h⟩

end Boxes

namespace History

variable {H : History} (replaces : Registration → Registration → Bool)

theorem boxes_append (H d : History) :
    boxes replaces (H ++ d) = d.foldl (·.after replaces) (boxes replaces H) := by
  rw [boxes, boxes, List.foldl_append]

/-- The engine has boxes only of connections that it has. -/
theorem kept_of_admits (hH : Admits [] H) {box : Box} (hbox : box ∈ (boxes replaces H).kept) :
    released H (.connection box.registration.connection) <
      given H (.connection box.registration.connection) := by
  induction H using List.reverseRecOn with
  | nil => cases hbox
  | append_singleton H x ih =>
    rw [boxes_append] at hbox
    obtain ⟨hbefore, hallows, -⟩ := History.admits_append.mp hH
    obtain ⟨hreleases, hkept⟩ := Boxes.mem_kept_after hbox
    have hthere : released H (.connection box.registration.connection) <
        given H (.connection box.registration.connection) := by
      rcases hkept with hkept | ⟨huses, hreason⟩
      · exact ih hbefore hkept
      · have hle := released_le_freed H (.connection box.registration.connection)
        rcases hallows _ huses with hopen | ⟨hasks, -⟩
        · exact Nat.lt_of_le_of_lt hle hopen
        · rw [hreason] at hasks
          cases hasks
    rw [released_append, given_append, released_cons, if_neg hreleases]
    exact Nat.lt_of_lt_of_le hthere (Nat.le_add_right _ _)

/-- When the engine never refuses to close a connection, it takes back what the library lets go. -/
theorem released_eq_freed (hclose : ∀ c code, ⟨.closeConnection c, code⟩ ∈ H → code = Code.ok)
    (r : Resource) : released H r = freed H r := by
  refine List.countP_congr fun x hx => ?_
  simp only [decide_eq_true_eq]
  refine ⟨Exchange.frees?_of_releases?, fun h => ?_⟩
  obtain ⟨call, reply⟩ := x
  cases call with
  | closeConnection c =>
    rw [Exchange.releases?, if_pos (hclose c reply hx)]
    exact h
  | backupFinish p => exact h
  | _ => cases h

/-- When all connections were let go, and the engine has not refused to close one, every box was
dropped as often as it was made. -/
theorem count_dropped (hH : Admits [] H) (haccounted : (boxes replaces H).Accounted)
    (hfreed : ∀ c, given H (.connection c) = freed H (.connection c))
    (hclose : ∀ c code, ⟨.closeConnection c, code⟩ ∈ H → code = Code.ok) (p : UserData) :
    (boxes replaces H).heap.dropped.count p = (boxes replaces H).heap.made.count p := by
  have hkept : (boxes replaces H).kept = [] := by
    refine List.eq_nil_iff_forall_not_mem.mpr fun box hbox => ?_
    have hlt := kept_of_admits replaces hH hbox
    rw [released_eq_freed hclose, hfreed] at hlt
    exact absurd hlt (Nat.lt_irrefl _)
  rw [haccounted.balance, hkept, List.countP_nil, Nat.add_zero]

end History

end GuardedSql
