import MachineFleet.Proofs.Fleet.Ownership
import MachineFleet.Proofs.Program.Protocol

/-!
The protocol to which the operations of a machine keep. A request is permitted when, whatever the
other machines have done to the account, it leaves it consistent and touches only the record of
its own machine; its reply then says what is known next.
-/

namespace MachineFleet

theorem Cloud.Serves.cases {c : Cloud} {request : Http.Request} {before after : List c.Record}
    {reply : Http.Reply} (serves : c.Serves request before reply after) :
    (∃ told, c.effect request before told after ∧ (reply = told ∨ reply.Failed)) ∨
      after = before ∧ reply.Failed := by
  cases serves with
  | answered effect => exact .inl ⟨reply, effect, .inl rfl⟩
  | lost effect failed => exact .inl ⟨_, effect, .inr failed⟩
  | refused failed => exact .inr ⟨rfl, failed⟩

namespace Knowledge

variable {ε α ρ : Type} {read : Http.Reply → Except ε α} {known : α → Knowledge ρ}
  {reply : Http.Reply}

/-- A reply that is read teaches what `known` makes of it; one that is not teaches nothing. -/
def ofReply (read : Http.Reply → Except ε α) (known : α → Knowledge ρ) (reply : Http.Reply) :
    Knowledge ρ :=
  match read reply with
  | .ok a => known a
  | .error _ => .unknown

theorem ofReply_ok {a : α} (told : read reply = .ok a) : ofReply read known reply = known a := by
  unfold ofReply
  rw [told]

theorem ofReply_error {e : ε} (unread : read reply = .error e) :
    ofReply read known reply = .unknown := by
  unfold ofReply
  rw [unread]

end Knowledge

namespace World

variable {c : Cloud} {ι : Type} {words : Option ι → String → Prop} {i : ι} {uid : String}
  {target : Option String}

/-- The requests of a machine with the UID that may be about to have another. -/
def Permits (c : Cloud) (words : Option ι → String → Prop) (i : ι) (uid : String)
    (target : Option String) :
    Program.Protocol (Knowledge c.Record) Http.Request fun _ => Http.Reply :=
  fun k request learn => ∀ (w : World c ι) (reply : Http.Reply) (after : List c.Record),
    w.Consistent words → (w.agents i).uid = uid → (w.agents i).target = target → w.Knows i k →
    c.Serves request w.records reply after →
    w.Confined words i after ∧ (w.served i after).Knows i (learn reply)

theorem permits_look {request : Http.Request} {learn : Http.Reply → Knowledge c.Record}
    {k : Knowledge c.Record}
    (effects : ∀ before reply after, c.effect request before reply after → after = before ∧
      (learn reply = k ∨ ∃ o, learn reply = .ofSearch o ∧
        (o = none → ∀ s ∈ before, ¬ c.carries (c.marks s) uid) ∧
        ∀ s, o = some s → s ∈ before ∧ c.carries (c.marks s) uid))
    (failing : ∀ reply, reply.Failed → learn reply = k) :
    Permits c words i uid target k request learn := by
  intro w reply after consistent hasUid _ knows serves
  have unchanged : after = w.records := by
    rcases serves.cases with ⟨told, effect, -⟩ | ⟨same, -⟩
    · exact (effects _ _ _ effect).1
    · exact same
  subst unchanged
  refine ⟨confined_self consistent, ?_⟩
  rw [served_self]
  have unlearnt : learn reply = k → w.Knows i (learn reply) := by
    intro same
    rw [same]
    exact knows
  rcases serves.cases with ⟨told, effect, rfl | failed⟩ | ⟨-, failed⟩
  · rcases (effects _ _ _ effect).2 with same | ⟨o, learnt, absent, present⟩
    · exact unlearnt same
    · rw [learnt]
      cases o with
      | none =>
        intro s member
        rw [hasUid]
        exact absent rfl s member
      | some s =>
        obtain ⟨member, carries⟩ := present s rfl
        rw [← hasUid] at carries
        exact ⟨carries, s, member, rfl, rfl,
          consistent.maker_of_carries member (.inl rfl) carries⟩
  · exact unlearnt (failing reply failed)
  · exact unlearnt (failing reply failed)

theorem permits_aside {request : Http.Request} {k : Knowledge c.Record}
    (effects : ∀ before reply after, c.effect request before reply after → after = before) :
    Permits c words i uid target k request fun _ => k :=
  permits_look (fun before reply after effect => ⟨effects before reply after effect, .inl rfl⟩)
    fun _ _ => rfl

theorem permits_make {request : Http.Request} {learn : Http.Reply → Knowledge c.Record}
    (effects : ∀ before reply after, c.effect request before reply after → ∃ s,
      after = s :: before ∧ c.id s ∉ before.map c.id ∧ c.carries (c.marks s) uid ∧
      (∀ u, c.carries (c.marks s) u → u = uid ∨ words (some i) u) ∧
      (learn reply = .unknown ∨ learn reply = .found s))
    (failing : ∀ reply, reply.Failed → learn reply = .unknown) :
    Permits c words i uid none .vacant request learn := by
  intro w reply after consistent hasUid settled vacant serves
  rcases serves.cases with ⟨told, effect, arrived⟩ | ⟨rfl, failed⟩
  · obtain ⟨s, rfl, new, carries, drawn, learnt⟩ := effects _ _ _ effect
    rw [← hasUid] at carries drawn
    refine ⟨confined_cons consistent settled vacant new carries drawn, ?_⟩
    rcases arrived with rfl | failed
    · rcases learnt with learnt | learnt
      · rw [learnt]
        trivial
      · rw [learnt]
        exact ⟨carries, s, List.mem_cons_self, rfl, rfl,
          served_maker_of_new i List.mem_cons_self new⟩
    · rw [failing reply failed]
      trivial
  · rw [failing reply failed]
    exact ⟨confined_self consistent, trivial⟩

theorem permits_rename {request : Http.Request}
    {learn : Http.Reply → Knowledge c.Record} {s : c.Record} {v : String} (renames : c.Renames)
    (effects : ∀ before reply after, c.effect request before reply after →
      (∃ f : c.Record → c.Record, after = before.map f ∧
        ∀ t, c.id (f t) = c.id t ∧ (c.id t ≠ c.id s → f t = t) ∧
          (c.id t = c.id s → c.marks (f t) = c.renamed (c.marks s) uid v)) ∧
      (learn reply = .unknown ∨ learn reply = .vacant))
    (failing : ∀ reply, reply.Failed → learn reply = .unknown) :
    Permits c words i uid (some v) (.found s) request learn := by
  intro w reply after consistent hasUid aimed knows serves
  obtain ⟨carries, t₀, member₀, sameId, sameMarks, made₀⟩ := knows
  rcases serves.cases with ⟨told, effect, arrived⟩ | ⟨rfl, failed⟩
  · obtain ⟨⟨f, rfl, maps⟩, learnt⟩ := effects _ _ _ effect
    have others : ∀ t ∈ w.records, w.maker (c.id t) ≠ some i → f t = t := by
      intro t _ notMine
      refine (maps t).2.1 fun same => notMine ?_
      rw [same, ← sameId]
      exact made₀
    have mine : ∀ t ∈ w.records, w.maker (c.id t) = some i →
        c.carries (c.marks t) (w.agents i).uid ∧
          c.marks (f t) = c.renamed (c.marks t) (w.agents i).uid v := by
      intro t member made
      have same : t = t₀ := (consistent.owned i).single t member t₀ member₀ made made₀
      subst same
      rw [(maps t).2.2 sameId, ← sameMarks, hasUid]
      rw [← sameMarks, hasUid] at carries
      exact ⟨carries, rfl⟩
    have confined : w.Confined words i (w.records.map f) :=
      confined_map consistent renames aimed (fun t _ => (maps t).1) others
        fun t member made => .inr (mine t member made)
    refine ⟨confined, ?_⟩
    rcases arrived with rfl | failed
    · rcases learnt with learnt | learnt
      · rw [learnt]
        trivial
      · -- Only the record of the machine could carry the old UID, and it has just lost it.
        rw [learnt]
        intro s' member carried
        have made := (served_consistent consistent confined).maker_of_carries member
          (.inl rfl : ((w.served i (w.records.map f)).agents i).GoesBy _) carried
        obtain ⟨t, before, rfl⟩ := List.mem_map.mp member
        rw [(maps t).1, served_maker_of_mem i _ before] at made
        obtain ⟨carriedBefore, changed⟩ := mine t before made
        rw [changed] at carried
        rcases renames.only _ _ _ _ carriedBefore carried with same | ⟨differs, -⟩
        · exact (consistent.ahead i v aimed).1 same.symm
        · exact differs rfl
    · rw [failing reply failed]
      trivial
  · rw [failing reply failed]
    exact ⟨confined_self consistent, trivial⟩

theorem permits_remove {request : Http.Request} {s : c.Record}
    (effects : ∀ before reply after, c.effect request before reply after →
      after = before.filter fun t => c.id t ≠ c.id s) :
    Permits c words i uid none (.found s) request fun _ => .unknown := by
  intro w reply after consistent _ settled knows serves
  obtain ⟨-, t₀, -, sameId, -, made₀⟩ := knows
  refine ⟨?_, trivial⟩
  rcases serves.cases with ⟨told, effect, -⟩ | ⟨rfl, -⟩
  · rw [effects _ _ _ effect]
    refine confined_filter consistent settled ?_
    intro t _ notMine
    refine decide_eq_true fun same => notMine ?_
    rw [same, ← sameId]
    exact made₀
  · exact confined_self consistent

/-- The operation keeps to the protocol and learns nothing by it. -/
def Aside {α : Type} (c : Cloud) (words : Option ι → String → Prop) (i : ι) (uid : String)
    (target : Option String) (k : Knowledge c.Record) (x : Operation α) : Prop :=
  Program.Follows (Permits c words i uid target) (fun after _ => after = k) x k

section Aside

variable {ε α β : Type} {k : Knowledge c.Record}

theorem aside_pure (a : α) : Aside c words i uid target k (pure a) :=
  rfl

theorem aside_send {request : Http.Request} {read : Http.Reply → Except ε α}
    (permitted : Permits c words i uid target k request fun _ => k) :
    ((Http.send request).bind fun reply => .done (read reply)).Follows
      (Permits c words i uid target) (fun after _ => after = k) k :=
  Operation.follows_send permitted (fun _ => rfl) rfl

theorem follows_aside {x : Operation α} {f : α → Operation β}
    {result : Knowledge c.Record → Except CloudError β → Prop}
    (first : Aside c words i uid target k x)
    (rest : ∀ a, Program.Follows (Permits c words i uid target) result (f a) k)
    (fails : ∀ e, result k (.error e)) :
    Program.Follows (Permits c words i uid target) result (x >>= f : Operation β) k := by
  refine Operation.follows_bind first ?_ ?_
  · rintro _ a rfl
    exact rest a
  · rintro _ e rfl
    exact fails e

theorem aside_bind {x : Operation α} {f : α → Operation β}
    (first : Aside c words i uid target k x) (rest : ∀ a, Aside c words i uid target k (f a)) :
    Aside c words i uid target k (x >>= f) :=
  follows_aside first rest fun _ => rfl

theorem aside_discard {x : Operation α} (first : Aside c words i uid target k x) :
    Aside c words i uid target k (discard x) := by
  refine Operation.follows_map first ?_ ?_
  · intro after a same
    exact same
  · intro after e same
    exact same

end Aside

end World

def Knowledge.Searched {ρ : Type} (k : Knowledge ρ) : Except CloudError (Option ρ) → Prop
  | .ok o => k = .ofSearch o
  | .error _ => True

/-- What an operation that ends knows: an instance that it results in is that of its machine, and
after a migration no record carries the old UID. -/
def Knowledge.Fulfils (c : Cloud) (k : Knowledge c.Record) :
    (call : CloudCall) → call.Answer → Prop
  | .get _, .ok result => ∃ s, k = .found s ∧ result = c.snapshot s
  | .create _ _, .ok result => ∃ s, k = .found s ∧ result = c.snapshot s
  | .migrateUid _ _, .ok _ => k = .vacant
  | _, _ => True

def Agent.Suits (a : Agent) : CloudCall → Prop
  | .get m => m.uid = a.uid ∧ a.target = none
  | .create m _ => m.uid = a.uid ∧ a.target = none
  | .cleanup m => m.uid = a.uid ∧ a.target = none
  | .migrateUid m newUid => m.uid = a.uid ∧ a.target = some newUid
  | _ => False

structure Cloud.Orderly (c : Cloud) {ι : Type} (words : Option ι → String → Prop) : Prop where
  renames : c.Renames
  follows : ∀ (i : ι) (r : Resolver) (a : Agent) (call : CloudCall), a.Suits call →
    (∀ m userdata, call = .create m userdata → ∀ t, c.asks m.spec t → words (some i) t) →
    (c.answer r call).Follows (World.Permits c words i a.uid a.target)
      (fun k result => k.Fulfils c call result) .unknown

end MachineFleet
