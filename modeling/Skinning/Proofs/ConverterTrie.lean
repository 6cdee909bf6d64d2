import Mathlib.Data.List.Nodup
import Mathlib.Data.List.Infix
import Skinning.Screen.Stage

/-! Pipelines as tries. A pipeline holds the chains of converters that lead from its source to
its stages. Connecting a chain adds the prefixes of that chain and nothing else, and where no
stage has two branches of one kind, every chain is at one place. -/
namespace Skinning

theorem lastIndex?_eq_some {p : α → Bool} {items : List α} {i : Nat}
    (found : lastIndex? p items = some i) : ∃ item, items[i]? = some item ∧ p item := by
  induction items generalizing i with
  | nil => cases found
  | cons item rest ih =>
    rw [lastIndex?] at found
    cases later : lastIndex? p rest with
    | some j =>
      simp only [later, Option.some.injEq] at found
      subst found
      simpa using ih later
    | none =>
      simp only [later] at found
      split at found
      next holds =>
        obtain rfl : 0 = i := by simpa using found
        exact ⟨item, rfl, holds⟩
      · cases found

theorem lastIndex?_eq_none {p : α → Bool} {items : List α} (missing : lastIndex? p items = none) :
    ∀ item ∈ items, ¬ p item := by
  induction items with
  | nil => simp
  | cons item rest ih =>
    rw [lastIndex?] at missing
    cases later : lastIndex? p rest with
    | some j => simp [later] at missing
    | none =>
      simp only [later, ite_eq_right_iff, reduceCtorEq, imp_false] at missing
      simpa [missing] using ih later

namespace ConverterRequest

/-- The kind of stage that is looked for. -/
def asked (request : ConverterRequest) : StageKind := .converter request.kind request.arguments

/-- A converter that reports the arguments it was made with. -/
def IsFaithful (request : ConverterRequest) : Prop := request.reported = request.arguments

end ConverterRequest

namespace Stage

/-- The kinds of the stages on the way down a path, without the stage where it begins. -/
inductive Reaches : Stage → StagePath → List StageKind → Prop
  | here {s : Stage} : Reaches s [] []
  | down {s child : Stage} {i : Nat} {path : StagePath} {chain : List StageKind} :
      s.downstream[i]? = some child → Reaches child path chain →
        Reaches s (i :: path) (child.kind :: chain)

theorem reaches_iff {s : Stage} {path : StagePath} {chain : List StageKind} :
    s.Reaches path chain ↔ (s.at? path).isSome ∧ s.trail path = s.kind :: chain := by
  constructor
  · intro reaches
    induction reaches with
    | here => simp [at?, trail]
    | down found _ ih => simp [at?, trail, found, ih.1, ih.2]
  · rintro ⟨present, trails⟩
    induction path generalizing s chain with
    | nil =>
      have top : chain = [] := by simpa [trail, eq_comm] using trails
      exact top ▸ .here
    | cons i path ih =>
      cases found : s.downstream[i]? with
      | none => simp [at?, found] at present
      | some child =>
        simp only [at?, found, Option.bind_some] at present
        obtain ⟨kind, rest⟩ : ∃ rest, child.trail path = child.kind :: rest := by
          cases path <;> simp [trail]
        simp only [trail, found, List.cons.injEq, true_and] at trails
        rw [← trails, rest]
        exact .down found (ih present rest)

theorem Reaches.chain_unique {s : Stage} (reaches : s.Reaches path chain)
    (again : s.Reaches path other) : chain = other := by
  have trails := (reaches_iff.mp reaches).2.symm.trans (reaches_iff.mp again).2
  simpa using trails

/-- Some path leads down through stages of these kinds. -/
def Holds (s : Stage) (chain : List StageKind) : Prop := ∃ path, s.Reaches path chain

@[simp] theorem holds_nil (s : Stage) : s.Holds [] := ⟨[], .here⟩

theorem holds_cons {s : Stage} {kind : StageKind} {chain : List StageKind} :
    s.Holds (kind :: chain) ↔ ∃ child ∈ s.downstream, child.kind = kind ∧ child.Holds chain := by
  constructor
  · rintro ⟨_, reaches⟩
    cases reaches with
    | down found reaches => exact ⟨_, List.mem_of_getElem? found, rfl, _, reaches⟩
  · rintro ⟨child, member, rfl, path, reaches⟩
    obtain ⟨i, found⟩ := List.mem_iff_getElem?.mp member
    exact ⟨i :: path, .down found reaches⟩

/-- No stage has two branches of one kind. -/
def IsTrie (s : Stage) : Prop :=
  ∀ path place, s.at? path = some place → (place.downstream.map kind).Nodup

theorem isTrie_iff {s : Stage} :
    s.IsTrie ↔ (s.downstream.map kind).Nodup ∧ ∀ child ∈ s.downstream, child.IsTrie := by
  constructor
  · intro trie
    refine ⟨trie [] s rfl, fun child member path place found => ?_⟩
    obtain ⟨i, here⟩ := List.mem_iff_getElem?.mp member
    exact trie (i :: path) place (by simpa [at?, here] using found)
  · rintro ⟨apart, below⟩ path place found
    cases path with
    | nil =>
      obtain rfl : s = place := by simpa [at?] using found
      exact apart
    | cons i path =>
      obtain ⟨child, here, found⟩ := Option.bind_eq_some_iff.mp found
      exact below child (List.mem_of_getElem? here) path place found

theorem isTrie_of_bare {s : Stage} (bare : s.downstream = []) : s.IsTrie :=
  isTrie_iff.mpr (by simp [bare])

theorem Reaches.path_unique {s : Stage} (trie : s.IsTrie) (reaches : s.Reaches path chain)
    (again : s.Reaches other chain) : path = other := by
  induction reaches generalizing other with
  | here =>
    cases again
    rfl
  | @down s child i path chain found reaches ih =>
    generalize same : child.kind :: chain = whole at again
    cases again with
    | here => cases same
    | @down _ next j _ rest foundNext reachesNext =>
      obtain ⟨kinds, chains⟩ := List.cons.inj same
      obtain ⟨apart, below⟩ := isTrie_iff.mp trie
      have inside : i < (s.downstream.map kind).length := by
        simpa using (List.getElem?_eq_some_iff.mp found).1
      -- Two branches of one kind are one branch.
      have branch : i = j := by
        refine (List.getElem?_inj inside apart).mp ?_
        simp [found, foundNext, kinds]
      subst branch
      obtain rfl : child = next := by simpa [found] using foundNext
      rw [ih (below child (List.mem_of_getElem? found)) (chains ▸ reachesNext)]

/-! How many stages there are. -/

mutual

/-- The number of stages that hang below a stage. -/
def converters : Stage → Nat
  | ⟨_, downstream⟩ => convertersOf downstream

def convertersOf : List Stage → Nat
  | [] => 0
  | child :: rest => 1 + child.converters + convertersOf rest

end

mutual

/-- The chains of the stages below a stage, each once for every stage. -/
def chains : Stage → List (List StageKind)
  | ⟨_, downstream⟩ => chainsOf downstream

def chainsOf : List Stage → List (List StageKind)
  | [] => []
  | child :: rest => ([] :: child.chains).map (child.kind :: ·) ++ chainsOf rest

end

mutual

theorem length_chains : (s : Stage) → s.chains.length = s.converters
  | ⟨_, downstream⟩ => by simp only [chains, converters, length_chainsOf downstream]

theorem length_chainsOf : (stages : List Stage) →
    (chainsOf stages).length = convertersOf stages
  | [] => rfl
  | child :: rest => by
    simp only [chainsOf, convertersOf, List.length_append, List.length_map, List.length_cons,
      length_chains child, length_chainsOf rest]
    omega

end

mutual

theorem mem_chains_iff : (s : Stage) → (chain : List StageKind) →
    (chain ∈ s.chains ↔ chain ≠ [] ∧ s.Holds chain)
  | ⟨kind, downstream⟩, chain => by
    rw [chains, mem_chainsOf_iff downstream chain]
    cases chain with
    | nil => simp
    | cons first rest => simp [holds_cons, eq_comm]

theorem mem_chainsOf_iff : (stages : List Stage) → (chain : List StageKind) →
    (chain ∈ chainsOf stages ↔
      ∃ child ∈ stages, ∃ rest, chain = child.kind :: rest ∧ child.Holds rest)
  | [], chain => by simp [chainsOf]
  | child :: others, chain => by
    have inChild (rest : List StageKind) : rest ∈ [] :: child.chains ↔ child.Holds rest := by
      rw [List.mem_cons, mem_chains_iff child rest]
      by_cases none : rest = [] <;> simp [none]
    rw [chainsOf, List.mem_append, mem_chainsOf_iff others chain, List.mem_map]
    simp only [inChild, List.mem_cons, exists_eq_or_imp]
    refine or_congr_left (exists_congr fun rest => ?_)
    rw [and_comm, eq_comm]

end

mutual

theorem chains_nodup : (s : Stage) → s.IsTrie → s.chains.Nodup
  | ⟨_, downstream⟩, trie => by
    obtain ⟨apart, below⟩ := isTrie_iff.mp trie
    exact chainsOf_nodup downstream apart below

theorem chainsOf_nodup : (stages : List Stage) → (stages.map kind).Nodup →
    (∀ child ∈ stages, child.IsTrie) → (chainsOf stages).Nodup
  | [], _, _ => List.nodup_nil
  | child :: rest, apart, below => by
    obtain ⟨new, others⟩ := List.nodup_cons.mp apart
    have inChild : ([] :: child.chains).Nodup := by
      refine List.nodup_cons.mpr ⟨?_, chains_nodup child (below child (by simp))⟩
      simp [mem_chains_iff child]
    rw [chainsOf]
    refine List.Nodup.append (inChild.map fun _ _ same => (List.cons.inj same).2)
      (chainsOf_nodup rest others fun other member => below other (by simp [member])) ?_
    intro chain here there
    obtain ⟨_, -, rfl⟩ := List.mem_map.mp here
    obtain ⟨other, member, _, same, -⟩ := (mem_chainsOf_iff rest _).mp there
    exact new ((List.cons.inj same).1 ▸ List.mem_map_of_mem member)

end

/-! What becomes of a stage when one of its branches is replaced. -/

/-- The stage with another branch in a place. -/
def setBranch (s : Stage) (i : Nat) (branch : Stage) : Stage :=
  { s with downstream := s.downstream.set i branch }

section

variable {s child grown : Stage} {i : Nat} (found : s.downstream[i]? = some child)

include found

theorem getElem?_setBranch_self : (s.setBranch i grown).downstream[i]? = some grown :=
  List.getElem?_set_self (List.getElem?_eq_some_iff.mp found).1

variable (sameKind : grown.kind = child.kind)

include sameKind

theorem kinds_setBranch :
    (s.setBranch i grown).downstream.map kind = s.downstream.map kind := by
  refine List.ext_getElem? fun j => ?_
  rw [List.getElem?_map, List.getElem?_map]
  by_cases same : i = j
  · subst same
    rw [getElem?_setBranch_self found, found, Option.map_some, Option.map_some, sameKind]
  · rw [setBranch, List.getElem?_set_ne same]

theorem isTrie_setBranch (trie : s.IsTrie) (below : grown.IsTrie) :
    (s.setBranch i grown).IsTrie := by
  obtain ⟨apart, branches⟩ := isTrie_iff.mp trie
  refine isTrie_iff.mpr ⟨?_, fun other member => ?_⟩
  · rw [kinds_setBranch found sameKind]
    exact apart
  · rcases List.mem_or_eq_of_mem_set member with old | rfl
    · exact branches other old
    · exact below

theorem Reaches.setBranch {path : StagePath} {chain : List StageKind}
    (stays : ∀ path chain, child.Reaches path chain → grown.Reaches path chain)
    (reaches : s.Reaches path chain) : (s.setBranch i grown).Reaches path chain := by
  cases reaches with
  | here => exact .here
  | @down _ next j path rest foundNext reaches =>
    by_cases same : i = j
    · subst same
      obtain rfl : child = next := by simpa [found] using foundNext
      rw [← sameKind]
      exact .down (getElem?_setBranch_self found) (stays _ _ reaches)
    · exact .down ((List.getElem?_set_ne same).trans foundNext) reaches

end

/-! What connecting a chain adds. -/

/-- A pipeline with chains added: the chains that it had are where they were. -/
structure Grows (s : Stage) (added : List StageKind → Prop) (t : Stage) : Prop where
  sameKind : t.kind = s.kind
  trie : s.IsTrie → t.IsTrie
  stays : ∀ path chain, s.Reaches path chain → t.Reaches path chain
  holds : ∀ chain, t.Holds chain ↔ s.Holds chain ∨ added chain

namespace Grows

theorem trans {s t u : Stage} {added more : List StageKind → Prop} (first : s.Grows added t)
    (second : t.Grows more u) : s.Grows (fun chain => added chain ∨ more chain) u where
  sameKind := second.sameKind.trans first.sameKind
  trie := second.trie ∘ first.trie
  stays path chain reaches := second.stays path chain (first.stays path chain reaches)
  holds chain := by rw [second.holds, first.holds, or_assoc]

theorem congr {s t : Stage} {added others : List StageKind → Prop} (grows : s.Grows added t)
    (same : ∀ chain, s.Holds chain ∨ added chain ↔ s.Holds chain ∨ others chain) :
    s.Grows others t where
  sameKind := grows.sameKind
  trie := grows.trie
  stays := grows.stays
  holds chain := (grows.holds chain).trans (same chain)

theorem of_held {s : Stage} {chain : List StageKind} (held : s.Holds chain) :
    s.Grows (· = chain) s where
  sameKind := rfl
  trie := id
  stays _ _ := id
  holds found := by
    constructor
    · exact .inl
    · rintro (here | rfl)
      · exact here
      · exact held

theorem branch {s : Stage} {kind : StageKind} (new : kind ∉ s.downstream.map Stage.kind) :
    s.Grows (· = [kind]) { s with downstream := s.downstream ++ [⟨kind, []⟩] } where
  sameKind := rfl
  trie trie := by
    obtain ⟨apart, below⟩ := isTrie_iff.mp trie
    refine isTrie_iff.mpr ⟨?_, fun child member => ?_⟩
    · rw [List.map_append]
      exact apart.append (List.nodup_singleton _) (by simpa using new)
    · rcases List.mem_append.mp member with old | added
      · exact below child old
      · rw [List.mem_singleton.mp added]
        exact isTrie_of_bare rfl
  stays path chain reaches := by
    cases reaches with
    | here => exact .here
    | down here reaches =>
      have inside := (List.getElem?_eq_some_iff.mp here).1
      exact .down (by simpa [List.getElem?_append_left inside] using here) reaches
  holds chain := by
    cases chain with
    | nil => simp
    | cons first rest =>
      have ends : Holds ⟨kind, []⟩ rest ↔ rest = [] := by
        cases rest <;> simp [holds_cons]
      simp only [holds_cons, List.mem_append, List.mem_singleton, or_and_right, exists_or,
        exists_eq_left, ends, List.cons.injEq]
      simp [eq_comm]

/-- A chain that is added below a branch is added to the whole, behind that branch. -/
theorem set {s child grown : Stage} {i : Nat} {chain : List StageKind}
    (found : s.downstream[i]? = some child) (grows : child.Grows (· = chain) grown) :
    s.Grows (· = child.kind :: chain) (s.setBranch i grown) where
  sameKind := rfl
  trie trie := by
    have below := grows.trie ((isTrie_iff.mp trie).2 child (List.mem_of_getElem? found))
    exact isTrie_setBranch found grows.sameKind trie below
  stays _ _ reaches := reaches.setBranch found grows.sameKind grows.stays
  holds whole := by
    cases whole with
    | nil => simp
    | cons first rest =>
      rw [holds_cons, holds_cons, List.cons.injEq]
      constructor
      · rintro ⟨other, isBranch, rfl, holds⟩
        rcases List.mem_or_eq_of_mem_set isBranch with old | rfl
        · exact .inl ⟨other, old, rfl, holds⟩
        rcases (grows.holds rest).mp holds with held | rfl
        · exact .inl ⟨child, List.mem_of_getElem? found, grows.sameKind.symm, held⟩
        · exact .inr ⟨grows.sameKind, rfl⟩
      · have here : grown ∈ (s.setBranch i grown).downstream :=
          List.mem_of_getElem? (getElem?_setBranch_self found)
        rintro (⟨other, old, rfl, holds⟩ | ⟨rfl, rfl⟩)
        · obtain ⟨j, foundOther⟩ := List.mem_iff_getElem?.mp old
          by_cases same : i = j
          · subst same
            obtain rfl : child = other := by simpa [found] using foundOther
            exact ⟨grown, here, grows.sameKind, (grows.holds rest).mpr (.inl holds)⟩
          · have stays : (s.setBranch i grown).downstream[j]? = some other :=
              (List.getElem?_set_ne same).trans foundOther
            exact ⟨other, List.mem_of_getElem? stays, rfl, holds⟩
        · exact ⟨grown, here, grows.sameKind, (grows.holds rest).mpr (.inr rfl)⟩

end Grows

theorem connect_grows (s : Stage) {request : ConverterRequest} (faithful : request.IsFaithful) :
    s.Grows (· = [request.asked]) (s.connect request).1 ∧
      (s.connect request).1.Reaches [(s.connect request).2] [request.asked] := by
  rw [connect, find?]
  cases found : lastIndex? (fun child => child.kind == .converter request.kind request.arguments)
      s.downstream with
  | some i =>
    obtain ⟨child, here, isAsked⟩ := lastIndex?_eq_some found
    have kind : child.kind = request.asked := beq_iff_eq.mp isAsked
    have reaches : s.Reaches [i] [request.asked] := kind ▸ .down here .here
    exact ⟨.of_held ⟨_, reaches⟩, reaches⟩
  | none =>
    have new : request.asked ∉ s.downstream.map kind := by
      intro member
      obtain ⟨child, branch, kind⟩ := List.mem_map.mp member
      exact lastIndex?_eq_none found child branch (by simp [kind, ConverterRequest.asked])
    have kind : StageKind.converter request.kind request.reported = request.asked := by
      rw [ConverterRequest.asked, faithful]
    simp only [kind]
    refine ⟨.branch new, ?_⟩
    let grown : Stage := { s with downstream := s.downstream ++ [⟨request.asked, []⟩] }
    have added : grown.downstream[s.downstream.length]? = some ⟨request.asked, []⟩ := by
      simp [grown]
    exact .down added .here

theorem connectAt_grows {request : ConverterRequest} (faithful : request.IsFaithful) {s : Stage}
    {path : StagePath} {chain : List StageKind} (reaches : s.Reaches path chain) :
    s.Grows (· = chain ++ [request.asked]) (connectAt request path s).1 ∧
      (connectAt request path s).1.Reaches (connectAt request path s).2
        (chain ++ [request.asked]) := by
  induction reaches with
  | here => exact connect_grows _ faithful
  | @down s child i path chain found reaches ih =>
    obtain ⟨grows, reachesNew⟩ := ih
    have inside := (List.getElem?_eq_some_iff.mp found).1
    simp only [connectAt, found]
    refine ⟨grows.set found, ?_⟩
    rw [List.cons_append, ← grows.sameKind]
    exact .down (by simp [inside]) reachesNew

/-- Connecting the rest of a chain from a place on, where the first part has led. -/
theorem foldl_connectAt_grows {requests : List ConverterRequest}
    (faithful : ∀ request ∈ requests, request.IsFaithful) {s t : Stage} {path input : StagePath}
    {chain : List StageKind} (reaches : s.Reaches path chain)
    (connects : requests.foldl (fun (s, path) request => connectAt request path s) (s, path) =
      (t, input)) :
    s.Grows (fun found => ∃ more, more <+: requests.map ConverterRequest.asked ∧
      found = chain ++ more) t ∧ t.Reaches input (chain ++ requests.map ConverterRequest.asked) := by
  induction requests generalizing s path chain with
  | nil =>
    obtain ⟨rfl, rfl⟩ : s = t ∧ path = input := by simpa using connects
    refine ⟨(Grows.of_held ⟨path, reaches⟩).congr fun found => ?_, by simpa using reaches⟩
    simp
  | cons request rest ih =>
    obtain ⟨grows, reachesFirst⟩ := connectAt_grows (faithful request (by simp)) reaches
    obtain ⟨growsOn, reachesAll⟩ :=
      ih (fun other member => faithful other (by simp [member])) reachesFirst connects
    refine ⟨(grows.trans growsOn).congr fun found => ?_, by simpa using reachesAll⟩
    rw [List.map_cons]
    constructor
    · rintro (held | rfl | ⟨more, isPrefix, rfl⟩)
      · exact .inl held
      · exact .inr ⟨[request.asked], by simp, rfl⟩
      · exact .inr ⟨request.asked :: more, by simpa using isPrefix, by simp⟩
    · rintro (held | ⟨more, isPrefix, rfl⟩)
      · exact .inl held
      -- The empty prefix ends where the chain goes on from; any other one begins with the request.
      rcases List.prefix_cons_iff.mp isPrefix with rfl | ⟨others, rfl, shorter⟩
      · exact .inl ⟨path, by simpa using reaches⟩
      · exact .inr (.inr ⟨others, shorter, by simp⟩)

theorem connectAt_kind (request : ConverterRequest) (path : StagePath) (s : Stage) :
    (connectAt request path s).1.kind = s.kind := by
  cases path with
  | nil =>
    simp only [connectAt, connect]
    split <;> rfl
  | cons i path =>
    rw [connectAt]
    split <;> rfl

/-- What is connected to a stage does not make another of it. -/
theorem connectAll_kind (s : Stage) (requests : List ConverterRequest) :
    (s.connectAll requests).1.kind = s.kind := by
  unfold connectAll
  generalize ([] : StagePath) = path
  induction requests generalizing s path with
  | nil => rfl
  | cons request rest ih => exact (ih _ _).trans (connectAt_kind request path s)

/-- Connecting a chain adds its prefixes, and leads to where it ends. -/
theorem connectAll_grows (s : Stage) {requests : List ConverterRequest}
    (faithful : ∀ request ∈ requests, request.IsFaithful) :
    s.Grows (· <+: requests.map ConverterRequest.asked) (s.connectAll requests).1 ∧
      (s.connectAll requests).1.Reaches (s.connectAll requests).2
        (requests.map ConverterRequest.asked) := by
  obtain ⟨grows, reaches⟩ := foldl_connectAt_grows faithful .here (rfl : s.connectAll requests = _)
  exact ⟨grows.congr fun found => by simp, reaches⟩

end Stage
end Skinning
