import Mathlib.Data.Finset.Card
import Mathlib.Data.List.Chain
import Mathlib.Logic.Relation
import Skinning.Binding.Resolution

/-! Resolving a path. A search goes from replacement to replacement and has no end of its own: it
ends at the first path whose source is not given up, or else at the first that it meets again. -/
namespace Skinning

open Relation

namespace Peer

/-- Names of related screens, one after the other, lead to a screen, whose pipelines are numbered
from a number on. -/
inductive Leads : Peer → List String → Nat → Peer → Prop
  | here {p : Peer} : Leads p [] 0 p
  | related {p next found : Peer} {name : String} {rest : List String} {first more : Nat} :
      p.related? name = some (first, next) → Leads next rest more found →
      Leads p (name :: rest) (first + more) found

theorem follow?_eq_some_iff {p found : Peer} {names : List String} {first : Nat} :
    p.follow? names = some (first, found) ↔ p.Leads names first found := by
  constructor
  · intro follows
    induction names generalizing p first with
    | nil =>
      obtain ⟨rfl, rfl⟩ := Prod.mk.inj (Option.some.inj follows)
      exact .here
    | cons name rest ih =>
      simp only [follow?, Option.bind_eq_bind, Option.bind_eq_some_iff] at follows
      obtain ⟨⟨first, next⟩, related, ⟨more, end_⟩, follows, same⟩ := follows
      obtain ⟨rfl, rfl⟩ := Prod.mk.inj (Option.some.inj same)
      exact .related related (ih follows)
  · intro leads
    induction leads with
    | here => rfl
    | related related _ ih => simp [follow?, related, ih]

/-- What a path stands for: it names related screens and, last, a source. -/
inductive Denotes (p : Peer) (path : String) : Destination → Prop
  | source {names : List String} {name : String} {first pipeline : Nat} {screen : Peer} :
      Text.split '.' path = names ++ [name] → p.Leads names first screen →
      screen.sources.get? name = some (.live pipeline) → p.Denotes path (.source (first + pipeline))
  | obsolete {names : List String} {name replacement date : String} {description? : Option String}
      {first : Nat} {screen : Peer} :
      Text.split '.' path = names ++ [name] → p.Leads names first screen →
      screen.sources.get? name = some (.obsolete replacement date description?) →
      p.Denotes path (.obsolete replacement date description?)
  | noScreen {names : List String} {name : String} : Text.split '.' path = names ++ [name] →
      (∀ first screen, ¬ p.Leads names first screen) → p.Denotes path .noScreen
  | noSource {names : List String} {name : String} {first : Nat} {screen : Peer} :
      Text.split '.' path = names ++ [name] → p.Leads names first screen →
      screen.sources.get? name = none → p.Denotes path .noSource

theorem exists_split (path : String) :
    ∃ names name, Text.split '.' path = names ++ [name] := by
  have pieces (chars : List Char) : Text.splitChars '.' chars ≠ [] := by
    cases chars with
    | nil => simp [Text.splitChars]
    | cons c rest =>
      unfold Text.splitChars
      split
      · simp
      · split <;> simp
  have filled : Text.split '.' path ≠ [] := by simpa [Text.split] using pieces path.toList
  exact ⟨_, _, (List.dropLast_append_getLast filled).symm⟩

theorem destination_eq_iff {p : Peer} {path : String} {d : Destination} :
    p.destination path = d ↔ p.Denotes path d := by
  constructor
  · rintro rfl
    obtain ⟨names, name, cut⟩ := exists_split path
    simp only [destination, cut, List.dropLast_concat, List.getLastD_concat]
    cases follows : p.follow? names with
    | none =>
      refine .noScreen cut fun first screen leads => ?_
      rw [follow?_eq_some_iff.mpr leads] at follows
      cases follows
    | some place =>
      obtain ⟨first, screen⟩ := place
      have leads := follow?_eq_some_iff.mp follows
      dsimp only
      cases entry : screen.sources.get? name with
      | none => exact .noSource cut leads entry
      | some source =>
        cases source with
        | live pipeline => exact .source cut leads entry
        | obsolete replacement date description? => exact .obsolete cut leads entry
  · intro denotes
    cases denotes with
    | source cut leads entry | obsolete cut leads entry | noSource cut leads entry =>
      simp [destination, cut, follow?_eq_some_iff.mpr leads, entry]
    | @noScreen names name cut lost =>
      have follows : p.follow? names = none := by
        rw [Option.eq_none_iff_forall_ne_some]
        rintro ⟨first, screen⟩ follows
        exact lost first screen (follow?_eq_some_iff.mp follows)
      simp [destination, cut, follows]

theorem Denotes.unique {p : Peer} {path : String} {d e : Destination} (first : p.Denotes path d)
    (second : p.Denotes path e) : d = e :=
  (destination_eq_iff.mpr first).symm.trans (destination_eq_iff.mpr second)

/-- The source of a path is given up for another path, from the first screen again. -/
def Sends (p : Peer) (path replacement : String) : Prop :=
  ∃ date description?, p.Denotes path (.obsolete replacement date description?)

/-- The path is the first that a search meets again: all that it has passed are different. -/
def ComesBack (p : Peer) (path again : String) : Prop :=
  ∃ passed : List String, passed.head? = some path ∧ passed.Nodup ∧ again ∈ passed ∧
    (passed ++ [again]).IsChain p.Sends

/-- A search that has seen some paths goes on from a path, for as long as it takes, and comes to
a result and to the notices on its way. -/
inductive Searches (p : Peer) (fragment : String) :
    List String → String → Except BindingFault ResolvedSource × Notices → Prop
  | source {seen : List String} {path : String} {pipeline : Nat} :
      p.Denotes path (.source pipeline) → Searches p fragment seen path (.ok ⟨pipeline, path⟩, [])
  | noScreen {seen : List String} {path : String} : p.Denotes path .noScreen →
      Searches p fragment seen path (.error (.missingRelatedScreen path fragment), [])
  | noSource {seen : List String} {path : String} : p.Denotes path .noSource →
      Searches p fragment seen path (.error (.missingSource path fragment), [])
  | again {seen : List String} {path replacement date : String} {description? : Option String} :
      p.Denotes path (.obsolete replacement date description?) → path ∈ seen →
      Searches p fragment seen path (.error (.missingSource path fragment),
        obsoleteNotices fragment path replacement date description?)
  | replaced {seen : List String} {path replacement date : String} {description? : Option String}
      {result : Except BindingFault ResolvedSource} {notices : Notices} :
      p.Denotes path (.obsolete replacement date description?) → path ∉ seen →
      Searches p fragment (path :: seen) replacement (result, notices) →
      Searches p fragment seen path
        (result, obsoleteNotices fragment path replacement date description? ++ notices)

/-! A search ends. -/

theorem mem_obsolete {p : Peer} {name replacement date : String} {description? : Option String}
    (entry : p.sources.get? name = some (.obsolete replacement date description?)) :
    replacement ∈ p.obsolete := by
  unfold Table.get? at entry
  unfold obsolete
  generalize p.sources.entries = entries at entry ⊢
  induction entries with
  | nil => cases entry
  | cons first rest ih =>
    rw [Table.lookup_cons_ite] at entry
    split at entry
    · refine List.mem_filterMap.mpr ⟨first, List.mem_cons_self, ?_⟩
      rw [← Prod.eta first, Option.some.inj entry]
    · obtain ⟨kept, member, given⟩ := List.mem_filterMap.mp (ih entry)
      exact List.mem_filterMap.mpr ⟨kept, List.mem_cons_of_mem _ member, given⟩

theorem mem_replacementsOf {related : List (String × Nat × Peer)} {name replacement : String}
    {first : Nat} {next : Peer} (found : related.lookup name = some (first, next))
    (member : replacement ∈ next.replacements) : replacement ∈ replacementsOf related := by
  induction related with
  | nil => cases found
  | cons entry rest ih =>
    obtain ⟨other, number, peer⟩ := entry
    rw [Table.lookup_cons_ite] at found
    rw [replacementsOf, List.mem_append]
    split at found
    · obtain ⟨rfl, rfl⟩ := Prod.mk.inj (Option.some.inj found)
      exact .inl member
    · exact .inr (ih found)

theorem Leads.mem_replacements {p found : Peer} {names : List String} {first : Nat}
    {replacement : String} (leads : p.Leads names first found)
    (member : replacement ∈ found.obsolete) : replacement ∈ p.replacements := by
  induction leads with
  | @here q =>
    cases q
    exact List.mem_append_left _ member
  | @related q _ _ _ _ _ _ related _ ih =>
    cases q
    exact List.mem_append_right _ (mem_replacementsOf related (ih member))

theorem Sends.mem_replacements {p : Peer} {path replacement : String}
    (sends : p.Sends path replacement) : replacement ∈ p.replacements := by
  obtain ⟨date, description?, denotes⟩ := sends
  cases denotes with
  | obsolete _ leads entry => exact leads.mem_replacements (mem_obsolete entry)

/-- The paths that a search may still meet for the first time. -/
def unseen (p : Peer) (seen : List String) (path : String) : Finset String :=
  insert path p.replacements.toFinset \ seen.toFinset

theorem unseen_card_lt {p : Peer} {seen : List String} {path replacement : String}
    (sends : p.Sends path replacement) (new : path ∉ seen) :
    (p.unseen (path :: seen) replacement).card < (p.unseen seen path).card := by
  refine Finset.card_lt_card ((Finset.ssubset_iff_of_subset fun x => ?_).mpr ⟨path, ?_, ?_⟩)
  · have isReplacement := sends.mem_replacements
    simp only [unseen, Finset.mem_sdiff, Finset.mem_insert, List.mem_toFinset, List.mem_cons,
      not_or]
    rintro ⟨rfl | listed, -, unmet⟩
    · exact ⟨.inr isReplacement, unmet⟩
    · exact ⟨.inr listed, unmet⟩
  · simp [unseen, new]
  · simp [unseen]

theorem resolveFrom_searches (p : Peer) (fragment : String) {fuel : Nat} {seen : List String}
    {path : String} (enough : (p.unseen seen path).card ≤ fuel) :
    p.Searches fragment seen path (p.resolveFrom fragment fuel seen path) := by
  induction fuel generalizing seen path with
  | zero =>
    have met : path ∈ seen := by
      have none : p.unseen seen path = ∅ := Finset.card_eq_zero.mp (Nat.le_zero.mp enough)
      by_contra new
      have among : path ∈ p.unseen seen path := by simp [unseen, new]
      rw [none] at among
      cases among
    unfold resolveFrom
    split
    next is => exact .source (destination_eq_iff.mp is)
    next is => exact .noScreen (destination_eq_iff.mp is)
    next is => exact .noSource (destination_eq_iff.mp is)
    next is =>
      have again : p.Searches fragment seen path _ := .again (destination_eq_iff.mp is) met
      simpa [met] using again
  | succ fuel ih =>
    unfold resolveFrom
    split
    next is => exact .source (destination_eq_iff.mp is)
    next is => exact .noScreen (destination_eq_iff.mp is)
    next is => exact .noSource (destination_eq_iff.mp is)
    next replacement date description? is =>
      have denotes := destination_eq_iff.mp is
      by_cases met : path ∈ seen
      · have again : p.Searches fragment seen path _ := .again denotes met
        simpa [met] using again
      · have fewer := unseen_card_lt ⟨date, description?, denotes⟩ met
        simpa [met] using Searches.replaced denotes met (ih (by omega))

/-- A path is resolved by a search, which ends. -/
theorem resolve_searches (p : Peer) (fragment path : String) :
    p.Searches fragment [] path (p.resolve fragment path) := by
  refine p.resolveFrom_searches fragment ?_
  calc (p.unseen [] path).card ≤ (insert path p.replacements.toFinset).card :=
        Finset.card_le_card Finset.sdiff_subset
    _ ≤ p.replacements.toFinset.card + 1 := Finset.card_insert_le _ _
    _ ≤ p.replacements.length + 1 := Nat.succ_le_succ p.replacements.toFinset_card_le

/-! What a search comes to. -/

/-- What a path results in that no replacement leads on from. -/
def Destination.result? (fragment path : String) :
    Destination → Option (Except BindingFault ResolvedSource)
  | .source pipeline => some (.ok ⟨pipeline, path⟩)
  | .noScreen => some (.error (.missingRelatedScreen path fragment))
  | .noSource => some (.error (.missingSource path fragment))
  | .obsolete _ _ _ => none

/-- A path comes to a result, over the replacements that it leads to. -/
inductive ComesTo (p : Peer) (fragment path : String) : Except BindingFault ResolvedSource → Prop
  | last {last : String} {d : Destination} {result : Except BindingFault ResolvedSource} :
      ReflTransGen p.Sends path last → p.Denotes last d →
      Destination.result? fragment last d = some result → ComesTo p fragment path result
  | again {last : String} : p.ComesBack path last →
      ComesTo p fragment path (.error (.missingSource last fragment))

theorem reached_of_isChain {p : Peer} {xs : List String} {first last : String}
    (chain : xs.IsChain p.Sends) (head : xs.head? = some first) (member : last ∈ xs) :
    ReflTransGen p.Sends first last := by
  obtain ⟨rest, rfl⟩ := List.head?_eq_some_iff.mp head
  have reaches : (first :: rest).IsChain (ReflTransGen p.Sends) := chain.imp fun _ _ => .single
  rcases List.mem_cons.mp member with rfl | later
  · exact .refl
  · exact reaches.rel_cons later

/-- A search that starts after some paths have been passed. -/
theorem Searches.comesTo {p : Peer} {fragment : String} {seen : List String} {path start : String}
    {outcome : Except BindingFault ResolvedSource × Notices}
    (searches : p.Searches fragment seen path outcome) (distinct : seen.Nodup)
    (head : (seen.reverse ++ [path]).head? = some start)
    (chain : (seen.reverse ++ [path]).IsChain p.Sends) : p.ComesTo fragment start outcome.1 := by
  have reached {seen : List String} {path : String}
      (head : (seen.reverse ++ [path]).head? = some start)
      (chain : (seen.reverse ++ [path]).IsChain p.Sends) : ReflTransGen p.Sends start path :=
    reached_of_isChain chain head (by simp)
  induction searches with
  | source denotes | noScreen denotes | noSource denotes =>
    exact .last (reached head chain) denotes rfl
  | @again seen path _ _ _ denotes met =>
    refine .again ⟨seen.reverse, ?_, List.nodup_reverse.mpr distinct, by simpa using met, chain⟩
    have filled : seen.reverse ≠ [] := by simpa using List.ne_nil_of_mem met
    rwa [List.head?_append_of_ne_nil _ filled] at head
  | @replaced seen path replacement _ _ _ _ denotes new _ ih =>
    refine ih (List.nodup_cons.mpr ⟨new, distinct⟩) ?_ ?_
    · rw [List.reverse_cons, List.head?_append_of_ne_nil _ (by simp)]
      exact head
    · rw [List.reverse_cons, List.append_assoc]
      exact List.isChain_append_cons_cons.mpr ⟨chain, ⟨_, _, denotes⟩, .singleton _⟩

/-! There is one thing that a path comes to. -/

theorem sends_rightUnique (p : Peer) : Relator.RightUnique p.Sends := by
  rintro path first second ⟨_, _, denotes⟩ ⟨_, _, other⟩
  cases denotes.unique other
  rfl

/-- A path whose source is not given up. -/
def IsLast (p : Peer) (path : String) : Prop := ∀ next, ¬ p.Sends path next

theorem Denotes.isLast {p : Peer} {fragment path : String} {d : Destination}
    {result : Except BindingFault ResolvedSource} (denotes : p.Denotes path d)
    (results : Destination.result? fragment path d = some result) : p.IsLast path := by
  rintro next ⟨date, description?, given⟩
  rw [denotes.unique given] at results
  cases results

theorem IsLast.reached {p : Peer} {path last other : String} (isLast : p.IsLast last)
    (reached : ReflTransGen p.Sends path last) (reachedOther : ReflTransGen p.Sends path other) :
    ReflTransGen p.Sends other last := by
  rcases ReflTransGen.total_of_right_unique p.sends_rightUnique reached reachedOther with
    beyond | before
  · rcases beyond.cases_head with rfl | ⟨next, sends, -⟩
    · exact .refl
    · exact absurd sends (isLast next)
  · exact before

theorem IsLast.unique {p : Peer} {path last other : String} (isLast : p.IsLast last)
    (isLastOther : p.IsLast other) (reached : ReflTransGen p.Sends path last)
    (reachedOther : ReflTransGen p.Sends path other) : last = other := by
  rcases (isLast.reached reached reachedOther).cases_head with rfl | ⟨next, sends, -⟩
  · rfl
  · exact absurd sends (isLastOther next)

/-- What is reached from a cycle is on the cycle. -/
theorem transGen_of_cycle {p : Peer} {path next : String} (cycle : TransGen p.Sends path path)
    (reached : ReflTransGen p.Sends path next) : TransGen p.Sends next next := by
  induction reached with
  | refl => exact cycle
  | tail _ sends ih =>
    obtain ⟨onward, step, back⟩ := TransGen.head'_iff.mp ih
    obtain rfl := p.sends_rightUnique sends step
    exact .tail' back sends

theorem IsLast.not_cycle {p : Peer} {path last onCycle : String} (isLast : p.IsLast last)
    (reached : ReflTransGen p.Sends path last) (reachedOther : ReflTransGen p.Sends path onCycle) :
    ¬ TransGen p.Sends onCycle onCycle := by
  intro cycle
  obtain ⟨next, sends, -⟩ :=
    TransGen.head'_iff.mp (transGen_of_cycle cycle (isLast.reached reached reachedOther))
  exact isLast next sends

theorem ComesBack.cycle {p : Peer} {path again : String} (comes : p.ComesBack path again) :
    ReflTransGen p.Sends path again ∧ TransGen p.Sends again again := by
  obtain ⟨passed, head, -, member, chain⟩ := comes
  refine ⟨reached_of_isChain chain.left_of_append head member, ?_⟩
  obtain ⟨before, after, rfl⟩ := List.append_of_mem member
  rw [List.append_assoc, List.cons_append] at chain
  -- The way from the first meeting to the second has at least one step.
  have way := chain.right_of_append
  cases after with
  | nil => exact .single (by simpa using way)
  | cons next rest =>
    obtain ⟨step, others⟩ := List.isChain_cons_cons.mp way
    exact .head' step (reached_of_isChain others rfl (by simp))

/-- Of two runs of replacements from one path the shorter is the beginning of the longer. -/
theorem prefix_of_chains {p : Peer} {xs ys : List String} (head : xs.head? = ys.head?)
    (chain : xs.IsChain p.Sends) (other : ys.IsChain p.Sends) (shorter : xs.length ≤ ys.length) :
    xs <+: ys := by
  induction xs generalizing ys with
  | nil => exact List.nil_prefix
  | cons x rest ih =>
    cases ys with
    | nil => simp at shorter
    | cons y others =>
      obtain rfl : x = y := by simpa using head
      refine List.cons_prefix_cons.mpr ⟨rfl, ?_⟩
      cases rest with
      | nil => exact List.nil_prefix
      | cons z rest =>
        cases others with
        | nil => simp at shorter
        | cons w others =>
          obtain ⟨step, run⟩ := List.isChain_cons_cons.mp chain
          obtain ⟨stepOther, runOther⟩ := List.isChain_cons_cons.mp other
          obtain rfl := p.sends_rightUnique step stepOther
          exact ih rfl run runOther (Nat.le_of_succ_le_succ shorter)

theorem ComesBack.unique {p : Peer} {path again other : String} (comes : p.ComesBack path again)
    (comesOther : p.ComesBack path other) : again = other := by
  obtain ⟨passed, head, distinct, member, chain⟩ := comes
  obtain ⟨passedOther, headOther, distinctOther, memberOther, chainOther⟩ := comesOther
  have heads : (passed ++ [again]).head? = (passedOther ++ [other]).head? := by
    rw [List.head?_append_of_ne_nil _ (List.ne_nil_of_mem member),
      List.head?_append_of_ne_nil _ (List.ne_nil_of_mem memberOther), head, headOther]
  -- A shorter run would end with a path that the longer one passes twice.
  have lengths {xs ys : List String} {x y : String} (heads : (xs ++ [x]).head? = (ys ++ [y]).head?)
      (chain : (xs ++ [x]).IsChain p.Sends) (chainOther : (ys ++ [y]).IsChain p.Sends)
      (member : x ∈ xs) (distinctOther : ys.Nodup) : ys.length ≤ xs.length := by
    by_contra longer
    have begins : xs ++ [x] <+: ys ++ [y] :=
      prefix_of_chains heads chain chainOther (by simp; omega)
    have inside : xs ++ [x] <+: ys := List.prefix_of_prefix_length_le begins
      (List.prefix_append ys [y]) (by simp; omega)
    have distinct := distinctOther.sublist inside.sublist
    exact (List.nodup_append.mp distinct).2.2 x member x (by simp) rfl
  have same : passed.length = passedOther.length := Nat.le_antisymm
    (lengths heads.symm chainOther chain memberOther distinct)
    (lengths heads chain chainOther member distinctOther)
  have runs : passed ++ [again] = passedOther ++ [other] :=
    (prefix_of_chains heads chain chainOther (by simp [same])).eq_of_length (by simp [same])
  simpa using (List.append_inj runs same).2

theorem ComesTo.unique {p : Peer} {fragment path : String}
    {result other : Except BindingFault ResolvedSource} (comes : p.ComesTo fragment path result)
    (comesOther : p.ComesTo fragment path other) : result = other := by
  cases comes with
  | last reached denotes results =>
    have isLast := denotes.isLast results
    cases comesOther with
    | last reachedOther denotesOther resultsOther =>
      obtain rfl := isLast.unique (denotesOther.isLast resultsOther) reached reachedOther
      obtain rfl := denotes.unique denotesOther
      exact Option.some.inj (results.symm.trans resultsOther)
    | again back => exact absurd back.cycle.2 (isLast.not_cycle reached back.cycle.1)
  | again back =>
    cases comesOther with
    | last reached denotes results =>
      exact absurd back.cycle.2 ((denotes.isLast results).not_cycle reached back.cycle.1)
    | again backOther => rw [back.unique backOther]

theorem resolve_comesTo (p : Peer) (fragment path : String) :
    p.ComesTo fragment path (p.resolve fragment path).1 :=
  (p.resolve_searches fragment path).comesTo List.nodup_nil rfl (.singleton _)

/-- A search meets a path again exactly if replacements lead into a cycle. -/
theorem exists_comesBack_iff {p : Peer} {path : String} :
    (∃ again, p.ComesBack path again) ↔
      ∃ onCycle, ReflTransGen p.Sends path onCycle ∧ TransGen p.Sends onCycle onCycle := by
  constructor
  · rintro ⟨again, back⟩
    exact ⟨again, back.cycle⟩
  · rintro ⟨onCycle, reached, cycle⟩
    have comes := p.resolve_comesTo "" path
    generalize (p.resolve "" path).1 = result at comes
    cases comes with
    | last reachedLast denotes results =>
      exact absurd cycle ((denotes.isLast results).not_cycle reachedLast reached)
    | again back => exact ⟨_, back⟩

/-- What a path is resolved to is decided by where its replacements lead: to a path of a source in
use, to a path that names an unknown screen, or to one that names an unknown source or is met
again. -/
structure Settles (p : Peer) (fragment path : String)
    (result : Except BindingFault ResolvedSource) : Prop where
  source : ∀ pipeline last, result = .ok ⟨pipeline, last⟩ ↔
    ReflTransGen p.Sends path last ∧ p.Denotes last (.source pipeline)
  noScreen : ∀ last, result = .error (.missingRelatedScreen last fragment) ↔
    ReflTransGen p.Sends path last ∧ p.Denotes last .noScreen
  noSource : ∀ last, result = .error (.missingSource last fragment) ↔
    (ReflTransGen p.Sends path last ∧ p.Denotes last .noSource) ∨ p.ComesBack path last
  cycle : (∃ last, p.ComesBack path last) ↔
    ∃ last, ReflTransGen p.Sends path last ∧ TransGen p.Sends last last

theorem ComesTo.settles {p : Peer} {fragment path : String}
    {result : Except BindingFault ResolvedSource} (comes : p.ComesTo fragment path result) :
    p.Settles fragment path result where
  source pipeline last := by
    constructor
    · rintro rfl
      cases comes with
      | @last _ d _ reached denotes results =>
        cases d <;> cases results
        exact ⟨reached, denotes⟩
    · rintro ⟨reached, denotes⟩
      exact comes.unique (.last reached denotes rfl)
  noScreen last := by
    constructor
    · rintro rfl
      cases comes with
      | @last _ d _ reached denotes results =>
        cases d <;> cases results
        exact ⟨reached, denotes⟩
    · rintro ⟨reached, denotes⟩
      exact comes.unique (.last reached denotes rfl)
  noSource last := by
    constructor
    · rintro rfl
      cases comes with
      | @last _ d _ reached denotes results =>
        cases d <;> cases results
        exact .inl ⟨reached, denotes⟩
      | again back => exact .inr back
    · rintro (⟨reached, denotes⟩ | back)
      · exact comes.unique (.last reached denotes rfl)
      · exact comes.unique (.again back)
  cycle := exists_comesBack_iff

/-- Every search for a path ends, and in what it ends is settled by where replacements lead. -/
theorem resolve_settles (p : Peer) (fragment path : String) :
    p.Searches fragment [] path (p.resolve fragment path) ∧
      p.Settles fragment path (p.resolve fragment path).1 :=
  ⟨p.resolve_searches fragment path, (p.resolve_comesTo fragment path).settles⟩

/-- Two sources that are given up for each other, on two screens. -/
example :
    let side : Peer := ⟨"Side", .ofList [("b", .obsolete "a" "" none)], []⟩
    let main : Peer := ⟨"Main", .ofList [("a", .obsolete "side.b" "" none)], [("side", 0, side)]⟩
    (main.resolve "Main" "side.b").1 = .error (.missingSource "side.b" "Main") := by
  rfl

end Peer
end Skinning
