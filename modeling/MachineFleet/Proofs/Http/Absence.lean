import MachineFleet.Proofs.Http.Restraint

/-!
The answer of a cloud with an API that a machine has no instance. A look-up ends in it exactly if
the API has listed none; nothing else does, and no failure of the API is taken for it.
-/

namespace MachineFleet.Http.Service

variable {s : Service} {r : Resolver} {call : CloudCall} {c : s.Config} {t : List Event}

/-- What an operation results in means that there is no instance. -/
def IsMissing {α : Type} (a : Except CloudError α) : Prop :=
  ∃ e, a = .error e ∧ e.classify = .notFound

theorem not_missing {α : Type} {a : Except CloudError α} (definite : Definite a) :
    ¬ IsMissing a := by
  rintro ⟨e, failed, missing⟩
  exact definite e failed missing

theorem reply_of_single {q q' : Request} {reply reply' : Reply}
    (same : ([⟨q, reply⟩] : List Event) = [⟨q', reply'⟩]) : reply = reply' :=
  congrArg (fun e : Event => (e.2 : Reply)) (List.cons.inj same).1

theorem Search.eq_of_searched {m : Machine} {rs : List s.Record}
    {o : Except CloudError (Option s.Record)} (search : s.Search c m.uid t o)
    (searched : s.Searched r m t rs) : o = .ok rs.head? := by
  obtain ⟨c', reply, _, asked, told⟩ := searched
  cases search with
  | unsent _ => cases asked
  | unread unreadable _ _ =>
    cases reply_of_single asked
    cases unreadable.symm.trans told
  | listed _ told' _ =>
    cases reply_of_single asked
    rw [Option.some.inj (told'.symm.trans told)]

/-- Only a look-up ends so, and it does exactly if the API told that there is no record. -/
theorem Course.missing_iff {a : call.Answer} (course : s.Course r call t a) :
    IsMissing a ↔ ∃ m, call = .get m ∧ s.Searched r m t [] := by
  constructor
  · intro missing
    cases course with
    | apart _ definite => exact absurd missing (not_missing definite)
    | unresolved _ _ other => exact absurd missing (not_missing (.error other))
    | validated _ orderly => exact absurd missing (not_missing orderly.definite)
    | unsearched _ _ search => exact absurd missing (not_missing search.orderly.definite.recast)
    | missed resolved search => exact ⟨_, rfl, search.searched_none resolved⟩
    | got _ _ => exact absurd missing (not_missing (.ok _))
    | kept _ _ => exact absurd missing (not_missing (.ok _))
    | unprepared _ _ prepares => exact absurd missing (not_missing prepares.definite.recast)
    | posted _ _ _ _ _ _ definite _ => exact absurd missing (not_missing definite)
    | absent _ _ => exact absurd missing (not_missing (.ok _))
    | leaving _ _ => exact absurd missing (not_missing (.ok _))
    | unmarked _ _ => exact absurd missing (not_missing (.ok _))
    | altered _ _ _ _ _ definite => exact absurd missing (not_missing definite)
  · rintro ⟨m, rfl, searched⟩
    cases course with
    | apart without _ => cases without
    | unresolved _ _ _ =>
      obtain ⟨_, _, _, asked, _⟩ := searched
      cases asked
    | unsearched looks _ search =>
      cases looks
      cases search.eq_of_searched searched
    | missed _ _ => exact ⟨_, rfl, rfl⟩
    | got _ search => cases search.eq_of_searched searched
    | altered alters _ _ _ _ _ => cases alters

/-- A reply that fails never means that there is no instance. -/
theorem Course.definite_of_fails {a : call.Answer} (course : s.Course r call t a) {e : Event}
    (member : e ∈ t) (fails : s.Fails e) : Definite a := by
  intro cause ends missing
  have faulty := (s.fails_iff e).mp fails
  obtain ⟨m, rfl, searched⟩ := course.missing_iff.mp ⟨cause, ends, missing⟩
  cases course with
  | missed _ search => exact faulty (search.orderly.sound member)
  | got _ search => exact faulty (search.orderly.sound member)
  | apart without _ => cases without
  | unresolved _ _ _ => cases member
  | unsearched looks _ search =>
    cases looks
    cases search.eq_of_searched searched
  | altered alters _ _ _ _ _ => cases alters

variable (s) in
/-- That there is no instance is the result exactly of a look-up for which the API listed none of
the machine's, and never one where a reply failed. -/
def Discloses (r : Resolver) (call : CloudCall) (t : List Event) (a : call.Answer) : Prop :=
  (IsMissing a ↔ ∃ m, call = .get m ∧ s.Searched r m t []) ∧
    ∀ e ∈ t, s.Fails e → Definite a

theorem Course.discloses {a : call.Answer} (course : s.Course r call t a) :
    s.Discloses r call t a :=
  ⟨course.missing_iff, fun _ => course.definite_of_fails⟩

/-- On Hetzner and on Vultr, a machine has no instance only if the API says so. -/
theorem missing_means_none_listed (base : String) :
    (Hetzner.service base).Always (Hetzner.service base).Discloses ∧
      (Vultr.service base).Always (Vultr.service base).Discloses := by
  constructor
  · exact always_of_course Hetzner.course_of_yields Course.discloses
  · exact always_of_course Vultr.course_of_yields Course.discloses

end MachineFleet.Http.Service
