import MachineFleet.Proofs.Fleet.Conduct

/-!
Runs of machines that share an account. Every step keeps the account consistent and leaves every
operation under way within its protocol, so both hold at the end of any run.
-/

namespace MachineFleet

inductive Activity.ResultsIn : Activity → Instance → Prop where
  | get (m : Machine) (result : Instance) :
      ResultsIn (.running (.get m) (.done (.ok result))) result
  | create (m : Machine) (userdata : String) (result : Instance) :
      ResultsIn (.running (.create m userdata) (.done (.ok result))) result

namespace World

variable {c : Cloud} {ι : Type} {words : Option ι → String → Prop} {w w' : World c ι} {i j : ι}

/-- An operation under way suits its machine and keeps to the protocol with what it knows. -/
def Informed (words : Option ι → String → Prop) (w : World c ι) (i : ι) : Activity → Prop
  | .idle => True
  | .running call rest => (w.agents i).Suits call ∧ ∃ k, w.Knows i k ∧
      rest.Follows (Permits c words i (w.agents i).uid (w.agents i).target)
        (fun k result => k.Fulfils c call result) k

structure Sound (words : Option ι → String → Prop) (w : World c ι) : Prop where
  consistent : w.Consistent words
  informed : ∀ i, w.Informed words i (w.agents i).activity

/-- No machine does anything, and the account is consistent. -/
structure Settled (words : Option ι → String → Prop) (w : World c ι) : Prop where
  consistent : w.Consistent words
  idle : ∀ i, (w.agents i).activity = .idle

theorem Settled.sound (settled : w.Settled words) : w.Sound words where
  consistent := settled.consistent
  informed i := by
    rw [settled.idle i]
    trivial

theorem settled_of_empty {uids : ι → String} {maker : c.Id → Option ι}
    (distinct : ∀ i j, uids i = uids j → i = j)
    (unspoken : ∀ i o, words o (uids i) → o = some i) :
    Settled words (World.mk (c := c) [] maker fun i => { uid := uids i }) := by
  have known : ∀ i u, ({ uid := uids i } : Agent).HasHad u → u = uids i := by
    rintro i u ((same | aimed) | before)
    · exact same
    · cases aimed
    · cases before
  refine ⟨⟨List.nodup_nil, nofun, fun i => ⟨nofun, nofun, nofun⟩, ?_, ?_, nofun⟩, fun _ => rfl⟩
  · intro i j u first second
    exact distinct i j ((known i u first).symm.trans (known j u second))
  · intro i u known' o spoken
    rw [known i u (.inl known')] at spoken
    exact unspoken i o spoken

variable [DecidableEq ι]

theorem set_consistent {a : Agent} (consistent : w.Consistent words)
    (had : ∀ u, a.HasHad u → (w.agents i).HasHad u ∨ w.Fresh words i u)
    (goes : ∀ u, a.GoesBy u → (w.agents i).GoesBy u ∨ w.Fresh words i u)
    (keeps : ∀ u, (w.agents i).HasHad u → a.HasHad u)
    (marked : ∀ s ∈ w.records, w.maker (c.id s) = some i →
      ∃ u, a.GoesBy u ∧ c.carries (c.marks s) u)
    (ahead : ∀ v, a.target = some v → v ≠ a.uid ∧ v ∉ a.former) :
    (w.set i a).Consistent words := by
  constructor
  case unique => exact consistent.unique
  case strangers => exact consistent.strangers
  case owned =>
    intro j
    by_cases same : j = i
    · subst same
      refine ⟨(consistent.owned j).single, ?_, ?_⟩
      · rw [set_agents_self]
        exact marked
      · rw [set_agents_self]
        intro s member made u carries
        exact ((consistent.owned j).drawn s member made u carries).imp_left (keeps u)
    · refine ⟨(consistent.owned j).single, ?_, ?_⟩
      · rw [set_agents_of_ne w a same]
        exact (consistent.owned j).marked
      · rw [set_agents_of_ne w a same]
        exact (consistent.owned j).drawn
  case apart =>
    intro j k u first second
    by_cases sameFirst : j = i
    · by_cases sameSecond : k = i
      · rw [sameFirst, sameSecond]
      · rw [sameFirst, set_agents_self] at first
        rw [set_agents_of_ne w a sameSecond] at second
        rcases had u first with old | fresh
        · exact sameFirst.trans (consistent.apart i k u old second)
        · exact absurd second (fresh.1 k)
    · rw [set_agents_of_ne w a sameFirst] at first
      by_cases sameSecond : k = i
      · rw [sameSecond, set_agents_self] at second
        rcases had u second with old | fresh
        · exact (consistent.apart j i u first old).trans sameSecond.symm
        · exact absurd first (fresh.1 j)
      · rw [set_agents_of_ne w a sameSecond] at second
        exact consistent.apart j k u first second
  case unspoken =>
    intro j u known
    by_cases same : j = i
    · subst same
      rw [set_agents_self] at known
      rcases goes u known with old | fresh
      · exact consistent.unspoken j u old
      · exact fresh.2
    · rw [set_agents_of_ne w a same] at known
      exact consistent.unspoken j u known
  case ahead =>
    intro j v aimed
    by_cases same : j = i
    · subst same
      rw [set_agents_self] at aimed ⊢
      exact ahead v aimed
    · rw [set_agents_of_ne w a same] at aimed ⊢
      exact consistent.ahead j v aimed

theorem set_activity_consistent (consistent : w.Consistent words) (activity : Activity) :
    (w.set i { w.agents i with activity }).Consistent words :=
  set_consistent consistent (fun _ => .inl) (fun _ => .inl) (fun _ => id)
    (consistent.owned i).marked (consistent.ahead i)

theorem set_target_consistent {newUid : String} (consistent : w.Consistent words)
    (allowed : (w.agents i).target = some newUid ∨
      (w.agents i).target = none ∧ w.Fresh words i newUid) (activity : Activity) :
    (w.set i { w.agents i with target := some newUid, activity }).Consistent words := by
  rcases allowed with repeated | ⟨settled, fresh⟩
  · rw [← repeated]
    exact set_activity_consistent consistent activity
  · have goes : ∀ u, ({ w.agents i with target := some newUid, activity } : Agent).GoesBy u →
        (w.agents i).GoesBy u ∨ w.Fresh words i u := by
      rintro u (same | aimed)
      · exact .inl (.inl same)
      · cases aimed
        exact .inr fresh
    have keeps : ∀ u, (w.agents i).GoesBy u → u = (w.agents i).uid := by
      rintro u (same | aimed)
      · exact same
      · rw [settled] at aimed
        cases aimed
    refine set_consistent consistent ?_ goes ?_ ?_ ?_
    · rintro u (known | before)
      · exact (goes u known).imp_left .inl
      · exact .inl (.inr before)
    · rintro u (known | before)
      · exact .inl (.inl (keeps u known))
      · exact .inr before
    · intro s member made
      obtain ⟨u, known, carries⟩ := (consistent.owned i).marked s member made
      exact ⟨u, .inl (keeps u known), carries⟩
    · intro v aimed
      cases aimed
      refine ⟨fun same => ?_, fun before => ?_⟩
      · exact fresh.1 i (.inl (.inl same))
      · exact fresh.1 i (.inr before)

theorem set_migrated_consistent {newUid : String} (consistent : w.Consistent words)
    (aimed : (w.agents i).target = some newUid) (vacant : w.Knows i .vacant) :
    (w.set i { uid := newUid, former := (w.agents i).uid :: (w.agents i).former }).Consistent
      words := by
  have goes : ∀ u, (w.agents i).GoesBy u → u = (w.agents i).uid ∨ u = newUid := by
    rintro u (same | before)
    · exact .inl same
    · rw [aimed] at before
      exact .inr (Option.some.inj before).symm
  have known : ∀ u, ({ uid := newUid, former := (w.agents i).uid :: (w.agents i).former } :
      Agent).GoesBy u → (w.agents i).GoesBy u := by
    rintro u (rfl | none)
    · exact .inr aimed
    · cases none
  refine set_consistent consistent ?_ (fun u h => .inl (known u h)) ?_ ?_ nofun
  · rintro u (now | before)
    · exact .inl (.inl (known u now))
    · rcases List.mem_cons.mp before with same | before
      · exact .inl (.inl (.inl same))
      · exact .inl (.inr before)
  · rintro u (now | before)
    · rcases goes u now with same | same
      · exact .inr (same ▸ List.mem_cons_self)
      · exact .inl (.inl same)
    · exact .inr (List.mem_cons_of_mem _ before)
  · intro s member made
    obtain ⟨u, now, carries⟩ := (consistent.owned i).marked s member made
    rcases goes u now with rfl | same
    · exact absurd carries (vacant s member)
    · exact ⟨u, .inl same, carries⟩

omit [DecidableEq ι] in
theorem knows_of_same {k : Knowledge c.Record} (records : w'.records = w.records)
    (maker : w'.maker = w.maker) (uid : (w'.agents j).uid = (w.agents j).uid)
    (knows : w.Knows j k) : w'.Knows j k := by
  cases k with
  | unknown => trivial
  | vacant =>
    intro s member
    rw [records] at member
    rw [uid]
    exact knows s member
  | found s =>
    obtain ⟨carries, t, member, sameId, sameMarks, made⟩ := knows
    exact ⟨uid ▸ carries, t, records ▸ member, sameId, sameMarks, maker ▸ made⟩

theorem informed_set_of_ne {a : Agent} {activity : Activity} (other : j ≠ i)
    (informed : w.Informed words j activity) : (w.set i a).Informed words j activity := by
  have same : (w.set i a).agents j = w.agents j := set_agents_of_ne w a other
  cases activity with
  | idle => trivial
  | running call rest =>
    obtain ⟨suits, k, knows, follows⟩ := informed
    have known : (w.set i a).Knows j k := knows_of_same (w := w) rfl rfl (by rw [same]) knows
    refine ⟨same ▸ suits, k, known, ?_⟩
    rw [same]
    exact follows

theorem set_sound {a : Agent} (others : ∀ j, j ≠ i → w.Informed words j (w.agents j).activity)
    (consistent : (w.set i a).Consistent words)
    (informed : (w.set i a).Informed words i a.activity) : (w.set i a).Sound words := by
  refine ⟨consistent, ?_⟩
  intro j
  by_cases same : j = i
  · subst same
    rw [set_agents_self]
    exact informed
  · rw [set_agents_of_ne w a same]
    exact informed_set_of_ne same (others j same)

theorem informed_start {call : CloudCall} (orderly : c.Orderly words) (r : Resolver)
    (admitted : w.Admits words i call) :
    (w.set i { (w.agents i).asked call with
      activity := .running call (c.answer r call) }).Informed words i
      (.running call (c.answer r call)) := by
  have suits : ((w.agents i).asked call).Suits call := by
    cases call with
    | create m userdata => exact ⟨admitted.1, admitted.2.1⟩
    | migrateUid m newUid => exact ⟨admitted.1, rfl⟩
    | _ => exact admitted
  have asks : ∀ m userdata, call = .create m userdata → ∀ t, c.asks m.spec t →
      words (some i) t := by
    rintro m userdata rfl
    exact admitted.2.2
  refine ⟨?_, .unknown, trivial, ?_⟩
  · rw [set_agents_self]
    cases call <;> exact suits
  · rw [set_agents_self]
    exact orderly.follows i r _ call suits asks

theorem start_sound {call : CloudCall} (orderly : c.Orderly words) (r : Resolver)
    (admitted : w.Admits words i call) (sound : w.Sound words) :
    (w.set i { (w.agents i).asked call with activity := .running call (c.answer r call) }).Sound
      words := by
  refine set_sound (fun j _ => sound.informed j) ?_ (informed_start orderly r admitted)
  cases call with
  | migrateUid m newUid => exact set_target_consistent sound.consistent admitted.2 _
  | _ => exact set_activity_consistent sound.consistent _

omit [DecidableEq ι] in
theorem informed_served {after : List c.Record} {activity : Activity}
    (consistent : w.Consistent words) (confined : w.Confined words i after) (other : j ≠ i)
    (informed : w.Informed words j activity) :
    (w.served i after).Informed words j activity := by
  cases activity with
  | idle => trivial
  | running call rest =>
    obtain ⟨suits, k, knows, follows⟩ := informed
    exact ⟨suits, k, knows_served consistent confined other knows, follows⟩

omit [DecidableEq ι] in
/-- A request that is under way is confined to the machine, and its reply is understood. -/
theorem request_confined {call : CloudCall} {q : Http.Request}
    {next : Http.Reply → Http.Exchange call.Answer} {reply : Http.Reply} {after : List c.Record}
    (sound : w.Sound words) (asking : (w.agents i).activity = .running call (.ask q next))
    (serves : c.Serves q w.records reply after) :
    w.Confined words i after ∧
      (w.served i after).Informed words i (.running call (next reply)) := by
  have informed := sound.informed i
  rw [asking] at informed
  obtain ⟨suits, k, knows, learn, allowed, follows⟩ := informed
  obtain ⟨confined, learnt⟩ := allowed w reply after sound.consistent rfl rfl knows serves
  exact ⟨confined, suits, learn reply, learnt, follows reply⟩

theorem request_sound {call : CloudCall} {q : Http.Request}
    {next : Http.Reply → Http.Exchange call.Answer} {reply : Http.Reply} {after : List c.Record}
    (sound : w.Sound words) (asking : (w.agents i).activity = .running call (.ask q next))
    (serves : c.Serves q w.records reply after) :
    ((w.served i after).set i
      { w.agents i with activity := .running call (next reply) }).Sound words := by
  obtain ⟨confined, suits, k, knows, follows⟩ := request_confined sound asking serves
  have consistent := served_consistent sound.consistent confined
  refine set_sound ?_ (set_activity_consistent consistent (.running call (next reply))) ?_
  · intro j other
    exact informed_served sound.consistent confined other (sound.informed j)
  · have same : (((w.served i after).set i
        { w.agents i with activity := .running call (next reply) }).agents i).uid =
          (w.agents i).uid := by
      rw [set_agents_self]
    refine ⟨?_, k, knows_of_same (w := w.served i after) rfl rfl same knows, ?_⟩
    · rw [set_agents_self]
      cases call <;> exact suits
    · rw [set_agents_self]
      exact follows

theorem finish_sound {call : CloudCall} {a : call.Answer} (sound : w.Sound words)
    (ended : (w.agents i).activity = .running call (.done a)) :
    (w.set i ((w.agents i).settled call a)).Sound words := by
  have informed := sound.informed i
  rw [ended] at informed
  obtain ⟨suits, k, knows, fulfils⟩ := informed
  have unchanged : (w.set i { w.agents i with activity := .idle }).Sound words :=
    set_sound (fun j _ => sound.informed j) (set_activity_consistent sound.consistent _) trivial
  cases call with
  | migrateUid m newUid =>
    cases a with
    | error e => exact unchanged
    | ok result =>
      have vacant : k = .vacant := fulfils
      subst vacant
      exact set_sound (fun j _ => sound.informed j)
        (set_migrated_consistent sound.consistent suits.2 knows) trivial
  | _ => exact unchanged

omit [DecidableEq ι] in
theorem mem_alike {before after : List c.Record}
    (alike : after.map (fun s => (c.id s, c.marks s)) = before.map fun s => (c.id s, c.marks s))
    {s : c.Record} (member : s ∈ after) :
    ∃ t ∈ before, c.id t = c.id s ∧ c.marks t = c.marks s := by
  have image : (c.id s, c.marks s) ∈ after.map fun s => (c.id s, c.marks s) :=
    List.mem_map_of_mem member
  rw [alike] at image
  obtain ⟨t, found, same⟩ := List.mem_map.mp image
  exact ⟨t, found, congrArg Prod.fst same, congrArg Prod.snd same⟩

omit [DecidableEq ι] in
theorem drift_consistent {after : List c.Record}
    (alike : after.map (fun s => (c.id s, c.marks s)) = w.records.map fun s => (c.id s, c.marks s))
    (consistent : w.Consistent words) :
    ({ w with records := after } : World c ι).Consistent words := by
  have unique : (after.map c.id).Nodup := by
    have ids := congrArg (List.map Prod.fst) alike
    simp only [List.map_map, Function.comp_def] at ids
    rw [ids]
    exact consistent.unique
  constructor
  case unique => exact unique
  case strangers =>
    intro s member made u carries
    obtain ⟨t, before, sameId, sameMarks⟩ := mem_alike alike member
    rw [← sameId] at made
    rw [← sameMarks] at carries
    exact consistent.strangers t before made u carries
  case owned =>
    intro i
    constructor
    · intro s hs t ht first second
      obtain ⟨s', sBefore, sId, -⟩ := mem_alike alike hs
      obtain ⟨t', tBefore, tId, -⟩ := mem_alike alike ht
      have same : s' = t' := (consistent.owned i).single s' sBefore t' tBefore
        (sId ▸ first) (tId ▸ second)
      refine List.inj_on_of_nodup_map unique hs ht ?_
      rw [← sId, ← tId, same]
    · intro s member made
      obtain ⟨t, before, sameId, sameMarks⟩ := mem_alike alike member
      rw [← sameMarks]
      exact (consistent.owned i).marked t before (sameId ▸ made)
    · intro s member made u carries
      obtain ⟨t, before, sameId, sameMarks⟩ := mem_alike alike member
      rw [← sameMarks] at carries
      exact (consistent.owned i).drawn t before (sameId ▸ made) u carries
  case apart => exact consistent.apart
  case unspoken => exact consistent.unspoken
  case ahead => exact consistent.ahead

omit [DecidableEq ι] in
theorem drift_sound {after : List c.Record}
    (alike : after.map (fun s => (c.id s, c.marks s)) = w.records.map fun s => (c.id s, c.marks s))
    (sound : w.Sound words) : ({ w with records := after } : World c ι).Sound words := by
  refine ⟨drift_consistent alike sound.consistent, ?_⟩
  intro i
  have knows : ∀ k, w.Knows i k → ({ w with records := after } : World c ι).Knows i k := by
    intro k knows
    cases k with
    | unknown => trivial
    | vacant =>
      intro s member carries
      obtain ⟨t, before, -, sameMarks⟩ := mem_alike alike member
      rw [← sameMarks] at carries
      exact knows t before carries
    | found s =>
      obtain ⟨carries, t, before, sameId, sameMarks, made⟩ := knows
      obtain ⟨t', member, nextId, nextMarks⟩ := mem_alike alike.symm before
      exact ⟨carries, t', member, nextId.trans sameId, nextMarks.trans sameMarks,
        by rw [nextId]; exact made⟩
  have informed := sound.informed i
  change Informed words { w with records := after } i (w.agents i).activity
  cases activity : (w.agents i).activity with
  | idle => trivial
  | running call rest =>
    rw [activity] at informed
    obtain ⟨suits, k, known, follows⟩ := informed
    exact ⟨suits, k, knows k known, follows⟩

theorem step_sound {actor : Option ι} (orderly : c.Orderly words) (step : Step words actor w w')
    (sound : w.Sound words) : w'.Sound words := by
  cases step with
  | start r idle admitted => exact start_sound orderly r admitted sound
  | request asking serves => exact request_sound sound asking serves
  | finish ended => exact finish_sound sound ended
  | abandon running =>
    exact set_sound (fun j _ => sound.informed j) (set_activity_consistent sound.consistent _)
      trivial
  | drift alike => exact drift_sound alike sound

theorem run_sound (orderly : c.Orderly words) (run : Run words w w') (sound : w.Sound words) :
    w'.Sound words := by
  induction run with
  | refl => exact sound
  | tail _ step ih =>
    obtain ⟨actor, step⟩ := step
    exact step_sound orderly step ih

end World

end MachineFleet
