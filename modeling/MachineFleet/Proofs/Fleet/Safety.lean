import MachineFleet.Proofs.Fleet.Runs

/-!
What runs of machines that share an account never do, and what a migration has done when it
succeeds: the record that the machine had before carries the new UID, and none carries the old.
-/

namespace MachineFleet.World

variable {c : Cloud} {ι : Type} {words : Option ι → String → Prop} {w w' : World c ι} {i : ι}

/-- An instance that an operation of a machine results in is that of a record of the machine. -/
def ResultsOwn (w : World c ι) : Prop :=
  ∀ i result, (w.agents i).activity.ResultsIn result → ∃ s, result = c.snapshot s ∧
    ∃ t ∈ w.records, c.id t = c.id s ∧ w.maker (c.id t) = some i

/-- A step of one machine leaves the records of all others as they are. -/
def TouchesOwn [DecidableEq ι] (words : Option ι → String → Prop) (w : World c ι) : Prop :=
  ∀ i w', Step words (some i) w w' → ∀ s ∈ w.records, w.maker (c.id s) ≠ some i →
    s ∈ w'.records ∧ w'.maker (c.id s) = w.maker (c.id s)

/-- One record at most carries a UID that no specification asks for as a mark. -/
theorem eq_of_carries (consistent : w.Consistent words) {u : String} (unspoken : ∀ o, ¬ words o u)
    {s t : c.Record} (first : s ∈ w.records) (second : t ∈ w.records)
    (sCarries : c.carries (c.marks s) u) (tCarries : c.carries (c.marks t) u) : s = t := by
  have made : ∀ r ∈ w.records, c.carries (c.marks r) u →
      ∃ i, w.maker (c.id r) = some i ∧ (w.agents i).HasHad u := by
    intro r member carries
    cases maker : w.maker (c.id r) with
    | none => exact absurd (consistent.strangers r member maker u carries) (unspoken none)
    | some i =>
      rcases (consistent.owned i).drawn r member maker u carries with had | spoken
      · exact ⟨i, rfl, had⟩
      · exact absurd spoken (unspoken (some i))
  obtain ⟨i, sMade, iHad⟩ := made s first sCarries
  obtain ⟨j, tMade, jHad⟩ := made t second tCarries
  rw [← consistent.apart i j u iHad jHad] at tMade
  exact (consistent.owned i).single s first t second sMade tMade

theorem Sound.resultsOwn (sound : w.Sound words) : w.ResultsOwn := by
  intro i result ended
  have informed := sound.informed i
  have own : ∀ k, w.Knows i k → (∃ s, k = .found s ∧ result = c.snapshot s) →
      ∃ s, result = c.snapshot s ∧
        ∃ t ∈ w.records, c.id t = c.id s ∧ w.maker (c.id t) = some i := by
    rintro k knows ⟨s, rfl, same⟩
    obtain ⟨-, t, member, sameId, -, made⟩ := knows
    exact ⟨s, same, t, member, sameId, made⟩
  generalize (w.agents i).activity = activity at ended informed
  cases ended with
  | get m =>
    obtain ⟨-, k, knows, fulfils⟩ := informed
    exact own k knows fulfils
  | create m userdata =>
    obtain ⟨-, k, knows, fulfils⟩ := informed
    exact own k knows fulfils

theorem Sound.touchesOwn [DecidableEq ι] (sound : w.Sound words) : w.TouchesOwn words := by
  intro i w' step s member other
  cases step with
  | start r idle admitted => exact ⟨member, rfl⟩
  | request asking serves =>
    obtain ⟨confined, -⟩ := request_confined sound asking serves
    exact ⟨confined.kept s member other, served_maker_of_mem i _ member⟩
  | finish ended => exact ⟨member, rfl⟩
  | abandon running => exact ⟨member, rfl⟩

/-- Somewhere in the run, a step of the machine adds a record with the identifier. -/
def MadeBetween [DecidableEq ι] (words : Option ι → String → Prop) (w w' : World c ι) (i : ι)
    (id : c.Id) : Prop :=
  ∃ u u', Run words w u ∧ Step words (some i) u u' ∧ Run words u' w' ∧
    id ∉ u.records.map c.id ∧ id ∈ u'.records.map c.id

theorem maker_step [DecidableEq ι] {actor : Option ι} (step : Step words actor w w')
    {s : c.Record} (member : s ∈ w'.records) (made : w'.maker (c.id s) = some i) :
    (∃ t ∈ w.records, c.id t = c.id s ∧ w.maker (c.id t) = some i) ∨
      actor = some i ∧ c.id s ∉ w.records.map c.id := by
  cases step with
  | start r idle admitted => exact .inl ⟨s, member, rfl, made⟩
  | finish ended => exact .inl ⟨s, member, rfl, made⟩
  | abandon running => exact .inl ⟨s, member, rfl, made⟩
  | @request _ j call q next reply after asking serves =>
    have member : s ∈ after := member
    have made : (w.served j after).maker (c.id s) = some i := made
    by_cases known : c.id s ∈ w.records.map c.id
    · obtain ⟨t, before, same⟩ := List.mem_map.mp known
      rw [← same, served_maker_of_mem j after before] at made
      exact .inl ⟨t, before, same, made⟩
    · rw [served_maker_of_new j member known] at made
      exact .inr ⟨made, known⟩
  | @drift _ after alike =>
    have ids : after.map c.id = w.records.map c.id := by
      simpa only [List.map_map, Function.comp_def] using congrArg (List.map Prod.fst) alike
    have known : c.id s ∈ w.records.map c.id := by
      rw [← ids]
      exact List.mem_map_of_mem member
    obtain ⟨t, before, same⟩ := List.mem_map.mp known
    refine .inl ⟨t, before, same, ?_⟩
    rw [same]
    exact made

/-- A machine that has a record now and had none then has made it in between. -/
theorem made_between [DecidableEq ι] (run : Run words w w')
    (vacant : ∀ t ∈ w.records, w.maker (c.id t) ≠ some i) {s : c.Record}
    (member : s ∈ w'.records) (made : w'.maker (c.id s) = some i) :
    MadeBetween words w w' i (c.id s) := by
  -- Back from the end of the run to the last step that added a record with the identifier.
  induction run generalizing s with
  | refl => exact absurd made (vacant s member)
  | @tail u u' earlier step ih =>
    obtain ⟨actor, step⟩ := step
    rcases maker_step step member made with ⟨t, before, same, wasMade⟩ | ⟨mine, new⟩
    · obtain ⟨v, v', prior, making, later, new, present⟩ := ih before wasMade
      rw [same] at new present
      exact ⟨v, v', prior, making, later.tail ⟨actor, step⟩, new, present⟩
    · subst mine
      exact ⟨u, u', earlier, step, .refl, new, List.mem_map_of_mem member⟩

/-- While a machine is migrated from one UID to another, the records that were its own have their
old marks or have them renamed; once the machine has the new UID the migration is over. -/
def Handing (w : World c ι) (i : ι) (u v : String) (own : c.Record → Prop) : Prop :=
  ((w.agents i).uid = u ∧ (w.agents i).target = some v ∧
    ∀ s, own s → ∃ t ∈ w.records, c.id t = c.id s ∧ w.maker (c.id t) = some i ∧
      (c.marks t = c.marks s ∨ c.marks t = c.renamed (c.marks s) u v)) ∨
  v = (w.agents i).uid ∨ v ∈ (w.agents i).former

theorem names_step [DecidableEq ι] {actor : Option ι} (sound : w.Sound words)
    (step : Step words actor w w') (i : ι) :
    ((w'.agents i).uid = (w.agents i).uid ∧ (w'.agents i).former = (w.agents i).former ∧
      ∀ v, (w.agents i).target = some v → (w'.agents i).target = some v) ∨
    (w.agents i).target = some (w'.agents i).uid ∧
      (w'.agents i).former = (w.agents i).uid :: (w.agents i).former := by
  have unchanged : ∀ {a : Agent}, a = w.agents i →
      a.uid = (w.agents i).uid ∧ a.former = (w.agents i).former ∧
        ∀ v, (w.agents i).target = some v → a.target = some v := by
    rintro a rfl
    exact ⟨rfl, rfl, fun _ => id⟩
  cases step with
  | @start _ j call r idle admitted =>
    by_cases same : i = j
    · subst same
      rw [set_agents_self]
      cases call with
      | migrateUid m newUid =>
        refine .inl ⟨rfl, rfl, fun v aimed => ?_⟩
        rcases admitted.2 with repeated | ⟨none, -⟩
        · exact repeated.symm.trans aimed
        · rw [none] at aimed
          cases aimed
      | _ => exact .inl ⟨rfl, rfl, fun _ => id⟩
    · exact .inl (unchanged (set_agents_of_ne w _ same))
  | @request _ j call q next reply after asking serves =>
    by_cases same : i = j
    · subst same
      rw [set_agents_self]
      exact .inl ⟨rfl, rfl, fun _ => id⟩
    · exact .inl (unchanged (set_agents_of_ne (w.served j after) _ same))
  | @finish _ j call a ended =>
    by_cases same : i = j
    · subst same
      have informed := sound.informed i
      rw [ended] at informed
      rw [set_agents_self]
      cases call with
      | migrateUid m newUid =>
        cases a with
        | error e => exact .inl ⟨rfl, rfl, fun _ => id⟩
        | ok result => exact .inr ⟨informed.1.2, rfl⟩
      | _ => exact .inl ⟨rfl, rfl, fun _ => id⟩
    · exact .inl (unchanged (set_agents_of_ne w _ same))
  | @abandon _ j call rest running =>
    by_cases same : i = j
    · subst same
      rw [set_agents_self]
      exact .inl ⟨rfl, rfl, fun _ => id⟩
    · exact .inl (unchanged (set_agents_of_ne w _ same))
  | drift alike => exact .inl (unchanged rfl)

theorem record_step [DecidableEq ι] {actor : Option ι} {v : String} {t : c.Record}
    (sound : w.Sound words) (step : Step words actor w w')
    (aimed : (w.agents i).target = some v) (member : t ∈ w.records)
    (made : w.maker (c.id t) = some i) :
    w'.maker (c.id t) = some i ∧ ∃ t' ∈ w'.records, c.id t' = c.id t ∧
      (c.marks t' = c.marks t ∨ c.carries (c.marks t) (w.agents i).uid ∧
        c.marks t' = c.renamed (c.marks t) (w.agents i).uid v) := by
  cases step with
  | @request _ j call q next reply after asking serves =>
    obtain ⟨confined, -⟩ := request_confined sound asking serves
    refine ⟨(served_maker_of_mem j after member).trans made, ?_⟩
    by_cases same : i = j
    · subst same
      exact confined.handed v aimed t member made
    · have kept : t ∈ after := by
        refine confined.kept t member ?_
        rw [made]
        exact fun h => same (Option.some.inj h)
      exact ⟨t, kept, rfl, .inl rfl⟩
  | drift alike =>
    obtain ⟨t', kept, sameId, sameMarks⟩ := mem_alike alike.symm member
    exact ⟨made, t', kept, sameId, .inl sameMarks⟩
  | _ => exact ⟨made, t, member, rfl, .inl rfl⟩

theorem handing_step [DecidableEq ι] {actor : Option ι} {u v : String} {own : c.Record → Prop}
    (renames : c.Renames) (carried : ∀ s, own s → c.carries (c.marks s) u)
    (sound : w.Sound words) (handing : w.Handing i u v own) (step : Step words actor w w') :
    w'.Handing i u v own := by
  rcases names_step sound step i with ⟨uid, former, target⟩ | ⟨taken, former⟩
  · rcases handing with ⟨hasUid, aimed, handing⟩ | past
    · refine .inl ⟨uid.trans hasUid, target v aimed, fun s mine => ?_⟩
      obtain ⟨t, member, sameId, made, marks⟩ := handing s mine
      obtain ⟨stillMade, t', member', nextId, nextMarks⟩ :=
        record_step sound step aimed member made
      refine ⟨t', member', nextId.trans sameId, ?_, ?_⟩
      · rw [nextId]
        exact stillMade
      · rcases nextMarks with kept | ⟨carries, renamed⟩
        · rw [kept]
          exact marks
        · rw [hasUid] at carries renamed
          rcases marks with old | new
          · rw [renamed, old]
            exact .inr rfl
          · -- A record that has been renamed does not carry the old UID any more.
            rw [new] at carries
            have differs := (sound.consistent.ahead i v aimed).1
            rw [hasUid] at differs
            rcases renames.only _ _ _ _ (carried s mine) carries with same | ⟨same, -⟩
            · exact absurd same.symm differs
            · exact absurd rfl same
    · rw [← uid, ← former] at past
      exact .inr past
  · refine .inr ?_
    rw [former]
    rcases handing with ⟨-, aimed, -⟩ | same | before
    · exact .inl (Option.some.inj (aimed.symm.trans taken))
    · exact .inr (same ▸ List.mem_cons_self)
    · exact .inr (List.mem_cons_of_mem _ before)

theorem handing_run [DecidableEq ι] {u v : String} {own : c.Record → Prop}
    (orderly : c.Orderly words) (carried : ∀ s, own s → c.carries (c.marks s) u)
    (sound : w.Sound words) (handing : w.Handing i u v own) (run : Run words w w') :
    w'.Sound words ∧ w'.Handing i u v own := by
  induction run with
  | refl => exact ⟨sound, handing⟩
  | tail _ step ih =>
    obtain ⟨actor, step⟩ := step
    exact ⟨step_sound orderly step ih.1,
      handing_step orderly.renames carried ih.1 ih.2 step⟩

theorem records_of_asked [DecidableEq ι] {first : World c ι} {v : String}
    (settled : (w.agents i).target = none) (asked : Step words (some i) w first)
    (aimed : (first.agents i).target = some v) :
    first.records = w.records ∧ first.maker = w.maker := by
  cases asked with
  | start r idle admitted => exact ⟨rfl, rfl⟩
  | request asking serves =>
    rw [set_agents_self] at aimed
    cases settled.symm.trans aimed
  | finish ended => exact ⟨rfl, rfl⟩
  | abandon running => exact ⟨rfl, rfl⟩

/-- Between the step with which a migration to `v` was asked for and its success, the record of
the machine has been renamed, and no record carries the old UID. -/
theorem handed_over [DecidableEq ι] {first last : World c ι} {u v : String} {m : Machine}
    {result : Unit} (orderly : c.Orderly words) (sound : w.Sound words)
    (hasUid : (w.agents i).uid = u) (settled : (w.agents i).target = none)
    (asked : Step words (some i) w first) (aimed : (first.agents i).target = some v)
    (run : Run words first last)
    (ended : (last.agents i).activity = .running (.migrateUid m v) (.done (.ok result))) :
    (∀ t ∈ last.records, ¬ c.carries (c.marks t) u) ∧
    ∀ s ∈ w.records, w.maker (c.id s) = some i → ∃ t ∈ last.records, c.id t = c.id s ∧
      c.marks t = c.renamed (c.marks s) u v ∧ c.carries (c.marks t) v := by
  have begun : (first.agents i).uid = u := by
    rcases names_step sound asked i with ⟨same, -⟩ | ⟨taken, -⟩
    · exact same.trans hasUid
    · cases settled.symm.trans taken
  obtain ⟨sameRecords, sameMaker⟩ := records_of_asked settled asked aimed
  have carried : ∀ s, s ∈ w.records ∧ w.maker (c.id s) = some i → c.carries (c.marks s) u := by
    rintro s ⟨member, made⟩
    obtain ⟨name, known, carries⟩ := (sound.consistent.owned i).marked s member made
    rcases known with rfl | other
    · rw [← hasUid]
      exact carries
    · cases settled.symm.trans other
  have handing : first.Handing i u v fun s => s ∈ w.records ∧ w.maker (c.id s) = some i := by
    refine .inl ⟨begun, aimed, ?_⟩
    rintro s ⟨member, made⟩
    refine ⟨s, ?_, rfl, ?_, .inl rfl⟩
    · rw [sameRecords]
      exact member
    · rw [sameMaker]
      exact made
  obtain ⟨lastSound, handed⟩ :=
    handing_run orderly carried (step_sound orderly asked sound) handing run
  have informed := lastSound.informed i
  rw [ended] at informed
  obtain ⟨suits, k, knows, vacant⟩ := informed
  have vacant : k = .vacant := vacant
  subst vacant
  rcases handed with ⟨stillUid, -, handed⟩ | past
  · rw [World.Knows, stillUid] at knows
    refine ⟨knows, fun s member made => ?_⟩
    obtain ⟨t, present, sameId, -, same | renamed⟩ := handed s ⟨member, made⟩
    · refine absurd ?_ (knows t present)
      rw [same]
      exact carried s ⟨member, made⟩
    · refine ⟨t, present, sameId, renamed, ?_⟩
      rw [renamed]
      exact orderly.renames.carries _ _ _
  · -- The machine does not have the new UID while the operation is still under way.
    have ahead := lastSound.consistent.ahead i v suits.2
    exact absurd past (not_or.mpr ahead)

end MachineFleet.World
