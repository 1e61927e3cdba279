import MachineFleet.Proofs.Container.Acceptance
import MachineFleet.Proofs.Container.Mirrors
import MachineFleet.Proofs.Container.Url
import MachineFleet.Proofs.Text.Cut

/-!
Mirrors written as an option again. What has been read names its registries without an equals sign
or a scheme, so that each entry is read back from its registry and its address as the same entry.
-/

namespace MachineFleet

theorem Url.isWeb_of_reachable {u : String} (reachable : Url.Reachable u) : Url.IsWeb u := by
  obtain ⟨⟨scheme, h⟩, result, supported, filled⟩ := reachable
  dsimp only at supported filled
  have named : ∃ name, (name = "http" ∨ name = "https") ∧ scheme = some name := by
    rcases supported with rfl | rfl
    · exact ⟨_, .inl rfl, rfl⟩
    · exact ⟨_, .inr rfl, rfl⟩
  obtain ⟨name, web, rfl⟩ := named
  obtain ⟨rest, begins, same⟩ := Url.begins_of_read web result rfl
  dsimp only at same
  subst same
  exact ⟨name, rest, web, begins, result, filled⟩

namespace Mirrors

/-- A text that is a token of its own. -/
structure IsToken (t : List Char) : Prop where
  trimmed : Text.trimChars t = t
  filled : t ≠ []
  whole : ',' ∉ t

theorem isToken_of_mem {input : String} {t : List Char} (member : t ∈ tokens input) :
    IsToken t := by
  obtain ⟨member, filled⟩ := List.mem_filter.mp member
  obtain ⟨piece, split, rfl⟩ := List.mem_map.mp member
  refine ⟨Text.trimChars_trimChars piece, by simpa using filled, fun comma => ?_⟩
  exact Text.not_mem_of_mem_splitOn split ((Text.trimChars_infix piece).subset comma)

theorem IsToken.tokens {s : String} (token : IsToken s.toList) : tokens s = [s.toList] := by
  rw [Mirrors.tokens, Text.splitOn_of_not_mem token.whole, List.map_singleton, token.trimmed,
    List.filter_cons_of_pos (by simpa using token.filled)]
  rfl

theorem tokens_intercalate {texts : List String} (each : ∀ s ∈ texts, IsToken s.toList) :
    tokens (",".intercalate texts) = texts.map String.toList := by
  induction texts with
  | nil => rfl
  | cons s rest ih =>
    obtain ⟨first, later⟩ := List.forall_mem_cons.mp each
    cases rest with
    | nil => exact first.tokens
    | cons s' rest =>
      rw [String.intercalate_cons_cons, tokens_append, first.tokens, ih later]
      rfl

/-- Two tokens with something between them that is no comma are one. -/
theorem IsToken.append {a b : List Char} (first : IsToken a) (last : IsToken b) {m : List Char}
    (between : ',' ∉ m) : IsToken (a ++ (m ++ b)) where
  trimmed := by
    refine Text.trimChars_eq_self_iff.mpr fun c ends => ?_
    rw [List.head?_append_of_ne_nil _ first.filled, ← List.append_assoc,
      List.getLast?_append_of_ne_nil _ last.filled] at ends
    rcases ends with head | tail
    · exact Text.trimChars_eq_self_iff.mp first.trimmed c (.inl head)
    · exact Text.trimChars_eq_self_iff.mp last.trimmed c (.inr tail)
  filled := by simp [first.filled]
  whole := by simp [first.whole, last.whole, between]

theorem scheme_infix_withScheme (mirror : List Char) :
    separator <:+: (withScheme mirror).toList := by
  unfold withScheme
  rw [String.toList_ofList]
  split
  · rename_i schemed
    exact Text.containsChars_iff.mp schemed
  · exact ⟨"https".toList, mirror, rfl⟩

theorem withScheme_of_infix {u : String} (schemed : separator <:+: u.toList) :
    withScheme u.toList = u := by
  rw [withScheme, if_pos (Text.containsChars_iff.mpr schemed), String.ofList_toList]

theorem eq_withScheme_of_url {mirror : List Char} {u : String} (result : url mirror = .ok u) :
    u = withScheme mirror := by
  unfold url at result
  dsimp only at result
  split at result
  · cases result
  · cases result
  split at result
  · cases result
  split at result
  · cases result
  · exact (Except.ok.inj result).symm

theorem url_of_reachable {mirror : List Char} (reachable : Url.Reachable (withScheme mirror)) :
    url mirror = .ok (withScheme mirror) := by
  obtain ⟨⟨scheme, h⟩, result, web, filled⟩ := reachable
  unfold url
  dsimp only at web filled ⊢
  rw [result]
  rcases web with rfl | rfl
  · simp [filled]
  · simp [filled]

theorem isToken_withScheme {mirror : List Char} (token : IsToken mirror) :
    IsToken (withScheme mirror).toList := by
  unfold withScheme
  rw [String.toList_ofList]
  split
  · exact token
  · have scheme : IsToken "https".toList := ⟨by decide, by decide, by decide⟩
    exact scheme.append token (m := separator) (by decide)

/-- What is known of an entry that has been read. -/
structure Sound (e : String × String) : Prop where
  registry : IsToken e.1.toList
  unequal : '=' ∉ e.1.toList
  schemeless : ¬ separator <:+: e.1.toList
  mirror : IsToken e.2.toList
  schemed : separator <:+: e.2.toList
  reachable : Url.Reachable e.2

def entryText (e : String × String) : String := e.1 ++ "=" ++ e.2

theorem toList_entryText (e : String × String) :
    (entryText e).toList = e.1.toList ++ '=' :: e.2.toList := by
  simp [entryText, String.toList_append]

theorem Sound.isToken {e : String × String} (sound : Sound e) : IsToken (entryText e).toList := by
  rw [toList_entryText]
  exact sound.registry.append sound.mirror (m := ['=']) (by decide)

/-- A sound entry is read back from its text. -/
theorem Sound.entry_eq {e : String × String} (sound : Sound e) :
    entry (entryText e).toList = .ok e := by
  have apart : parts (entryText e).toList = (e.1.toList, e.2.toList) := by
    have plain : Text.containsChars separator e.1.toList = false :=
      Bool.eq_false_iff.mpr fun schemed => sound.schemeless (Text.containsChars_iff.mp schemed)
    rw [parts, toList_entryText, Text.cutAt_append sound.unequal]
    dsimp only
    rw [plain, if_neg Bool.false_ne_true, sound.registry.trimmed, sound.mirror.trimmed]
  have same := withScheme_of_infix sound.schemed
  have read : url e.2.toList = .ok e.2 := by
    rw [url_of_reachable (by rw [same]; exact sound.reachable), same]
  rw [entry, apart]
  dsimp only
  rw [if_neg (by simpa using sound.registry.filled), read, String.ofList_toList]
  rfl

theorem sound_of_url {registry mirror : List Char} {u : String} (named : IsToken registry)
    (unequal : '=' ∉ registry) (schemeless : ¬ separator <:+: registry)
    (trimmed : Text.trimChars mirror = mirror) (whole : ',' ∉ mirror)
    (result : url mirror = .ok u) :
    Sound (String.ofList registry, u) := by
  have filled : mirror ≠ [] := by
    rintro rfl
    have refused : (url []).toOption = none := by decide +kernel
    rw [result] at refused
    cases refused
  have same := eq_withScheme_of_url result
  subst same
  exact ⟨by rwa [String.toList_ofList], by rwa [String.toList_ofList],
    by rwa [String.toList_ofList], isToken_withScheme ⟨trimmed, filled, whole⟩,
    scheme_infix_withScheme mirror, url_reachable result⟩

theorem isToken_defaultRegistry : IsToken defaultRegistry.toList :=
  ⟨by decide, by decide, by decide⟩

theorem sound_of_entry {t : List Char} {e : String × String} (token : IsToken t)
    (result : entry t = .ok e) : Sound e := by
  -- without an equals sign, or with a scheme before it, all of the token is the mirror
  have standard : ∀ u, url t = .ok u → Sound (String.ofList defaultRegistry.toList, u) :=
    fun u read => sound_of_url isToken_defaultRegistry (by decide)
      (fun schemed => absurd (Text.containsChars_iff.mpr schemed) (by decide)) token.trimmed
      token.whole read
  unfold entry at result
  dsimp only at result
  split at result
  · cases result
  rename_i filled
  obtain ⟨u, read, rfl⟩ := ok_of_map result
  unfold parts at filled read ⊢
  cases cut : Text.cutAt '=' t with
  | none =>
    rw [cut] at read
    exact standard u read
  | some found =>
    obtain ⟨registry, mirror⟩ := found
    obtain ⟨rfl, unequal⟩ := Text.eq_of_cutAt cut
    rw [cut] at filled read
    dsimp only at filled read ⊢
    split at read
    · rename_i schemed
      rw [if_pos schemed]
      exact standard u read
    · rename_i plain
      rw [if_neg plain] at filled ⊢
      have inner := Text.trimChars_infix registry
      have outer := Text.trimChars_infix mirror
      have whole := token.whole
      simp only [List.mem_append, List.mem_cons, not_or] at whole
      refine sound_of_url ⟨Text.trimChars_trimChars registry, by simpa using filled,
        fun comma => whole.1 (inner.subset comma)⟩ (fun equal => unequal (inner.subset equal))
        (fun schemed => plain (Text.containsChars_iff.mpr (schemed.trans inner)))
        (Text.trimChars_trimChars mirror) (fun comma => whole.2.2 (outer.subset comma)) read

/-- The entries of some mirrors, registry by registry. -/
def pairs (m : Mirrors) : List (String × String) :=
  m.entries.flatMap fun e => e.2.map fun u => (e.1, u)

/-- Some mirrors as an option. -/
def written (m : Mirrors) : String := ",".intercalate (m.pairs.map entryText)

theorem listed_ne_nil (es : List (String × String)) (r : String) : listed es r ≠ some [] := by
  unfold listed
  split
  · exact nofun
  · rename_i filled
    exact fun empty => filled (Option.some.inj empty)

theorem mem_of_listed {es : List (String × String)} {r u : String} {us : List String}
    (found : listed es r = some us) (member : u ∈ us) : (r, u) ∈ es := by
  unfold listed at found
  split at found
  · cases found
  · rw [← Option.some.inj found] at member
    obtain ⟨⟨r', u'⟩, within, rfl⟩ := List.mem_map.mp member
    obtain ⟨within, same⟩ := List.mem_filter.mp within
    exact beq_iff_eq.mp same ▸ within

theorem listed_map {r k : String} {us : List String} (filled : us ≠ []) :
    listed (us.map fun u => (k, u)) r = if r = k then some us else none := by
  induction us with
  | nil => exact absurd rfl filled
  | cons u rest ih =>
    rw [List.map_cons, listed_cons]
    cases rest with
    | nil => rfl
    | cons u' rest =>
      rw [ih (List.cons_ne_nil u' rest)]
      split <;> rfl

theorem listed_pairs {m : Mirrors} (filled : ∀ e ∈ m.entries, e.2 ≠ []) (r : String) :
    listed m.pairs r = m.get? r := by
  obtain ⟨es, ordered⟩ := m
  unfold pairs Dict.get?
  dsimp only at filled ⊢
  induction es with
  | nil => rfl
  | cons e es ih =>
    obtain ⟨first, ordered⟩ := List.pairwise_cons.mp ordered
    obtain ⟨some, filled⟩ := List.forall_mem_cons.mp filled
    rw [List.flatMap_cons, listed_append, listed_map some, ih ordered filled]
    by_cases same : r = e.1
    · subst same
      rw [if_pos rfl, Dict.lookup_of_lt first, List.lookup_cons, beq_self_eq_true]
      simp
    · rw [if_neg same, Dict.lookup_cons_of_ne e.2 es same, Option.merge_none_left]

theorem read_written {m : Mirrors} (filled : ∀ e ∈ m.entries, e.2 ≠ [])
    (sound : ∀ e ∈ m.pairs, Sound e) : read m.written = .ok m := by
  have texts : tokens m.written = m.pairs.map fun e => (entryText e).toList := by
    rw [written, tokens_intercalate, List.map_map]
    · rfl
    · intro s member
      obtain ⟨e, listed, rfl⟩ := List.mem_map.mp member
      exact (sound e listed).isToken
  have values : (tokens m.written).mapM entry = .ok m.pairs := by
    rw [mapM_eq_ok_iff, texts, List.forall₂_map_left_iff, List.forall₂_same]
    exact fun e member => (sound e member).entry_eq
  rw [read_eq, values]
  exact congrArg Except.ok (eq_addAll_iff.mpr fun r => (listed_pairs filled r).symm)

/-- The mirrors of each registry that has been read are among the entries, and there are some. -/
theorem listed_of_read {input : String} {m : Mirrors} (accepted : read input = .ok m) :
    ∀ e ∈ m.entries, e.2 ≠ [] ∧ ∀ u ∈ e.2, Sound (e.1, u) := by
  obtain ⟨es, entries, same⟩ := read_eq_ok_iff_entries.mp accepted
  intro e member
  have known : listed es e.1 = some e.2 := by
    rw [← same]
    exact Dict.mem_entries_iff.mp member
  refine ⟨fun empty => listed_ne_nil es e.1 (empty ▸ known), fun u within => ?_⟩
  obtain ⟨t, token, value⟩ := exists_of_mapM entries _ (mem_of_listed known within)
  exact sound_of_entry (isToken_of_mem token) value

/-- Mirrors that have been read are read back from what is written of them: each registry has a name
without blanks around it and mirrors that are web addresses. -/
theorem accepted_mirrors_return {input : String} {m : Mirrors} (accepted : read input = .ok m) :
    read m.written = .ok m ∧
      ∀ e ∈ m.entries, e.1 ≠ "" ∧ Text.trim e.1 = e.1 ∧ e.2 ≠ [] ∧ ∀ u ∈ e.2, Url.IsWeb u := by
  have each := listed_of_read accepted
  constructor
  · refine read_written (fun e member => (each e member).1) fun p member => ?_
    obtain ⟨e, within, member⟩ := List.mem_flatMap.mp member
    obtain ⟨u, listed, rfl⟩ := List.mem_map.mp member
    exact (each e within).2 u listed
  · intro e member
    obtain ⟨filled, sound⟩ := each e member
    obtain ⟨u, listed⟩ := List.exists_mem_of_ne_nil e.2 filled
    have name := (sound u listed).registry
    refine ⟨fun empty => name.filled (by simp [empty]), ?_, filled, fun u listed =>
      Url.isWeb_of_reachable (sound u listed).reachable⟩
    rw [Text.trim, name.trimmed, String.ofList_toList]

theorem spaced_mirrors_return : ∃ m : Mirrors,
    read " quay.io = HTTP://a.example/x=y?z=/ , d.example,quay.io=b.example " = .ok m ∧
      m.written =
        "docker.io=https://d.example,quay.io=HTTP://a.example/x=y?z=/,quay.io=https://b.example" ∧
      read m.written = .ok m ∧ ∀ e ∈ m.entries, e.1 ≠ "" ∧ Text.trim e.1 = e.1 ∧ e.2 ≠ [] ∧
        ∀ u ∈ e.2, Url.IsWeb u := by
  have accepted : read " quay.io = HTTP://a.example/x=y?z=/ , d.example,quay.io=b.example " =
      .ok (.ofList [("docker.io", ["https://d.example"]),
        ("quay.io", ["HTTP://a.example/x=y?z=/", "https://b.example"])]) := by decide +kernel
  exact ⟨_, accepted, rfl, accepted_mirrors_return accepted⟩

end Mirrors

end MachineFleet
