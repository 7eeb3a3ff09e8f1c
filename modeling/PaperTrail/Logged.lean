import PaperTrail.Event

/-!
# Logged computations

An answer or a fault, together with the events on the way to it.  What was logged before a fault
stays logged; nothing that would have come after it is.
-/

namespace PaperTrail

structure Logged (α : Type) where
  events : List Event
  answer : Except Fault α

namespace Logged

variable {α β γ : Type}

protected def pure (a : α) : Logged α := ⟨[], .ok a⟩

def fail (fault : Fault) : Logged α := ⟨[], .error fault⟩

def ofExcept (answer : Except Fault α) : Logged α := ⟨[], answer⟩

def log (event : Event) : Logged Unit := ⟨[event], .ok ()⟩

def logAll (events : List Event) : Logged Unit := ⟨events, .ok ()⟩

protected def bind (first : Logged α) (next : α → Logged β) : Logged β :=
  match first.answer with
  | .ok a =>
      let second := next a
      ⟨first.events ++ second.events, second.answer⟩
  | .error fault => ⟨first.events, .error fault⟩

instance : Monad Logged where
  pure := Logged.pure
  bind := Logged.bind

theorem pure_eq (a : α) : (pure a : Logged α) = ⟨[], .ok a⟩ := rfl

theorem bind_ok (events : List Event) (a : α) (next : α → Logged β) :
    ((⟨events, .ok a⟩ : Logged α) >>= next) =
      ⟨events ++ (next a).events, (next a).answer⟩ := rfl

theorem bind_error (events : List Event) (fault : Fault) (next : α → Logged β) :
    ((⟨events, .error fault⟩ : Logged α) >>= next) = ⟨events, .error fault⟩ := rfl

theorem ofExcept_ok_bind (a : α) (next : α → Logged β) : ofExcept (.ok a) >>= next = next a := rfl

/-- Works through the list, up to the first fault. -/
def each (f : α → Logged β) : List α → Logged (List β)
  | [] => pure []
  | a :: as => do
      let b ← f a
      let bs ← each f as
      return b :: bs

theorem each_cons (f : α → Logged β) (a : α) (as : List α) :
    each f (a :: as) = f a >>= fun b ↦ each f as >>= fun bs ↦ pure (b :: bs) := rfl

/-- The events have no influence on the answer. -/
theorem answer_bind (first : Logged α) (next : α → Logged β) :
    (first >>= next).answer = first.answer >>= fun a ↦ (next a).answer := by
  obtain ⟨events, answer⟩ := first
  cases answer with
  | ok a => rfl
  | error fault => rfl

theorem answer_bind_eq_ok_iff {first : Logged α} {next : α → Logged β} {b : β} :
    (first >>= next).answer = .ok b ↔
      ∃ a, first.answer = .ok a ∧ (next a).answer = .ok b := by
  rw [answer_bind]
  exact Fault.bind_eq_ok_iff

theorem exists_of_answer_bind_eq_error {first : Logged α} {next : α → Logged β} {fault : Fault}
    (h : (first >>= next).answer = .error fault) :
    first.answer = .error fault ∨ ∃ a, first.answer = .ok a ∧ (next a).answer = .error fault := by
  obtain ⟨events, answer⟩ := first
  cases answer with
  | ok a => exact .inr ⟨a, rfl, h⟩
  | error fault' =>
      cases h
      exact .inl rfl

/-- Every event of two passes was told by one of them. -/
theorem exists_of_mem_events_bind {first : Logged α} {next : α → Logged β} {event : Event}
    (h : event ∈ (first >>= next).events) :
    event ∈ first.events ∨ ∃ a, first.answer = .ok a ∧ event ∈ (next a).events := by
  obtain ⟨events, answer⟩ := first
  cases answer with
  | ok a => exact (List.mem_append.mp h).imp_right fun hnext ↦ ⟨a, rfl, hnext⟩
  | error fault => exact .inl h

theorem each_map (f : β → Logged γ) (g : α → β) (as : List α) :
    each f (as.map g) = each (fun a ↦ f (g a)) as := by
  induction as with
  | nil => rfl
  | cons a as ih => rw [List.map_cons, each_cons, each_cons, ih]

theorem each_of_ok {f : α → Logged β} {events : α → List Event} {g : α → β} {as : List α}
    (h : ∀ a ∈ as, f a = ⟨events a, .ok (g a)⟩) :
    each f as = ⟨as.flatMap events, .ok (as.map g)⟩ := by
  induction as with
  | nil => rfl
  | cons a as ih =>
      have hrest := ih fun c hc ↦ h c (List.mem_cons_of_mem a hc)
      rw [each_cons, h a List.mem_cons_self, hrest, bind_ok, bind_ok, pure_eq]
      simp

/-- The first fault is the answer, whatever comes behind it. -/
theorem each_append_of_error {f : α → Logged β} {events : α → List Event} {g : α → β}
    {as : List α} {a : α} {last : List Event} {fault : Fault}
    (h : ∀ c ∈ as, f c = ⟨events c, .ok (g c)⟩) (ha : f a = ⟨last, .error fault⟩)
    (rest : List α) :
    each f (as ++ a :: rest) = ⟨as.flatMap events ++ last, .error fault⟩ := by
  induction as with
  | nil =>
      rw [List.nil_append, each_cons, ha, bind_error]
      rfl
  | cons c as ih =>
      have hrest := ih fun b hb ↦ h b (List.mem_cons_of_mem c hb)
      rw [List.cons_append, each_cons, h c List.mem_cons_self, hrest, bind_ok, bind_error]
      simp

theorem answer_each_cons (f : α → Logged β) (a : α) (as : List α) :
    (each f (a :: as)).answer =
      (f a).answer >>= fun b ↦ (each f as).answer >>= fun bs ↦ pure (b :: bs) := by
  have hrest : ∀ b, (each f as >>= fun bs ↦ pure (b :: bs)).answer =
      (each f as).answer >>= fun bs ↦ pure (b :: bs) := fun b ↦ answer_bind _ _
  rw [each_cons, answer_bind]
  simp only [hrest]

theorem answer_each_append (f : α → Logged β) (as cs : List α) :
    (each f (as ++ cs)).answer =
      (each f as).answer >>= fun bs ↦ (each f cs).answer >>= fun ds ↦ pure (bs ++ ds) := by
  induction as with
  | nil =>
      have hnil : (each f []).answer = pure [] := rfl
      simp only [hnil, List.nil_append, pure_bind, bind_pure]
  | cons a as ih =>
      simp only [List.cons_append, answer_each_cons, ih, bind_assoc, pure_bind]

/-- What has been worked out comes from a member of the list. -/
theorem exists_input_of_mem_outputs {f : α → Logged β} {as : List α} {bs : List β}
    (h : (each f as).answer = .ok bs) {b : β} (hb : b ∈ bs) :
    ∃ a ∈ as, (f a).answer = .ok b := by
  induction as generalizing bs with
  | nil =>
      cases h
      cases hb
  | cons a as ih =>
      rw [each_cons] at h
      obtain ⟨c, hc, h⟩ := answer_bind_eq_ok_iff.mp h
      obtain ⟨cs, hcs, h⟩ := answer_bind_eq_ok_iff.mp h
      cases h
      rcases List.mem_cons.mp hb with rfl | hb
      · exact ⟨a, List.mem_cons_self, hc⟩
      · obtain ⟨a', ha', hfa'⟩ := ih hcs hb
        exact ⟨a', List.mem_cons_of_mem a ha', hfa'⟩

/-- If there is an answer, each member of the list has its part in it. -/
theorem exists_output_of_mem_inputs {f : α → Logged β} {as : List α} {bs : List β}
    (h : (each f as).answer = .ok bs) {a : α} (ha : a ∈ as) :
    ∃ b ∈ bs, (f a).answer = .ok b := by
  induction as generalizing bs with
  | nil => cases ha
  | cons c as ih =>
      rw [each_cons] at h
      obtain ⟨d, hd, h⟩ := answer_bind_eq_ok_iff.mp h
      obtain ⟨ds, hds, h⟩ := answer_bind_eq_ok_iff.mp h
      cases h
      rcases List.mem_cons.mp ha with rfl | ha
      · exact ⟨d, List.mem_cons_self, hd⟩
      · obtain ⟨b, hb, hfa⟩ := ih hds ha
        exact ⟨b, List.mem_cons_of_mem d hb, hfa⟩

/-- A fault of the whole pass is the fault of one of its items. -/
theorem exists_of_answer_each_eq_error {f : α → Logged β} {as : List α} {fault : Fault}
    (h : (each f as).answer = .error fault) : ∃ a ∈ as, (f a).answer = .error fault := by
  induction as with
  | nil => cases h
  | cons a as ih =>
      rw [each_cons] at h
      rcases exists_of_answer_bind_eq_error h with ha | ⟨b, -, h⟩
      · exact ⟨a, List.mem_cons_self, ha⟩
      · rcases exists_of_answer_bind_eq_error h with hrest | ⟨bs, -, h⟩
        · obtain ⟨c, hc, hfc⟩ := ih hrest
          exact ⟨c, List.mem_cons_of_mem a hc, hfc⟩
        · cases h

theorem exists_of_mem_events_each {f : α → Logged β} {as : List α} {event : Event}
    (h : event ∈ (each f as).events) : ∃ a ∈ as, event ∈ (f a).events := by
  induction as with
  | nil => cases h
  | cons a as ih =>
      rw [each_cons] at h
      rcases exists_of_mem_events_bind h with ha | ⟨b, -, h⟩
      · exact ⟨a, List.mem_cons_self, ha⟩
      · rcases exists_of_mem_events_bind h with hrest | ⟨bs, -, h⟩
        · obtain ⟨c, hc, hfc⟩ := ih hrest
          exact ⟨c, List.mem_cons_of_mem a hc, hfc⟩
        · cases h

end Logged

end PaperTrail
