import Skinning.Proofs.WrittenSections

/-! Tables as the statements of sections build them. A heading puts its table at the end of the
root, or behind the other tables of its name where they stand there; the pairs below it come to
stand in that table, in their order. -/
namespace Skinning.Toml.Node

/-! Entries under fresh keys. -/

variable {entries before : List (String × Node)} {key : String}

theorem put_fresh (fresh : key ∉ entries.map Prod.fst) (node : Node) :
    put entries key node = entries ++ [(key, node)] := by
  have kept : entries.filter (·.1 != key) = entries := by
    refine List.filter_eq_self.mpr fun entry member => ?_
    have other : entry.1 ≠ key := fun same => fresh (List.mem_map.mpr ⟨entry, member, same⟩)
    simpa using other
  rw [put, kept]

theorem put_last (fresh : key ∉ before.map Prod.fst) (old node : Node) :
    put (before ++ [(key, old)]) key node = before ++ [(key, node)] := by
  have replaced : put (before ++ [(key, old)]) key node = put before key node := by
    simp [put]
  rw [replaced, put_fresh fresh]

theorem lookup_last (fresh : key ∉ before.map Prod.fst) (node : Node) :
    (before ++ [(key, node)]).lookup key = some node := by
  simp [List.lookup_append, Table.lookup_of_fresh fresh]

/-! Pairs below a heading. -/

/-- The path leads to a table, and what is around it stays as it is. -/
def Reaches (path : List String) (around : Node → Node) : Prop :=
  ∀ f entries, (around (.table .headed entries)).change false f path =
    (f .headed entries).map around

theorem reaches_root : Reaches [] id := by
  intro f entries
  simp [change]

theorem reaches_table (fresh : key ∉ before.map Prod.fst) :
    Reaches [key] fun table => .table .headed (before ++ [(key, table)]) := by
  intro f entries
  simp only [change, changeEntry, lookup_last fresh, passThrough]
  cases f .headed entries with
  | none => rfl
  | some table => simp [put_last fresh]

theorem reaches_tables (fresh : key ∉ before.map Prod.fst) (items : List Node) :
    Reaches [key] fun table => .table .headed (before ++ [(key, .tables (items ++ [table]))]) := by
  intro f entries
  simp only [change, changeEntry, lookup_last fresh, passThrough]
  cases done : f .headed entries with
  | none => simp [change, done]
  | some table => simp [change, done, put_last fresh]

/-- The entries of plain values. -/
def ofPairs (pairs : List (String × Plain)) : List (String × Node) :=
  pairs.map fun (key, value) => (key, value.node)

theorem addPair_fresh (fresh : key ∉ entries.map Prod.fst) (value : Node) :
    addPair (.table .headed entries) [key] value =
      some (.table .headed (entries ++ [(key, value)])) := by
  simp [addPair, change, addKey, Table.lookup_of_fresh fresh, put_fresh fresh]

variable {path : List String} {around : Node → Node} {pairs : List (String × Plain)}

/-- Pairs with keys of their own are put into the table of the last heading one by one. -/
theorem build_pairs (reaches : Reaches path around)
    (distinct : (entries.map Prod.fst ++ pairs.map Prod.fst).Nodup) (rest : List Statement) :
    build (around (.table .headed entries)) path
        ((pairs.map fun (key, value) => Statement.pair [key] value.node) ++ rest) =
      build (around (.table .headed (entries ++ ofPairs pairs))) path rest := by
  -- What is around the table stays, so only its entries change from pair to pair.
  induction pairs generalizing entries with
  | nil => simp [ofPairs]
  | cons pair others ih =>
    obtain ⟨key, value⟩ := pair
    have fresh : key ∉ entries.map Prod.fst := fun member =>
      (List.nodup_append.mp distinct).2.2 key member key List.mem_cons_self rfl
    have added : (around (.table .headed entries)).change false
        (fun kind entries => addPair (.table kind entries) [key] value.node) path =
        some (around (.table .headed (entries ++ [(key, value.node)]))) := by
      rw [reaches, addPair_fresh fresh]
      rfl
    have others : ((entries ++ [(key, value.node)]).map Prod.fst ++ others.map Prod.fst).Nodup := by
      simpa using distinct
    have later := ih others
    simp only [List.map_cons, List.cons_append, build, added, Option.bind_eq_bind,
      Option.bind_some, later]
    simp [ofPairs]

/-! Sections. -/

/-- The table of the pairs of a section. -/
def tableOf (pairs : List (String × Plain)) : Node := .table .headed (ofPairs pairs)

theorem build_bare (distinct : (pairs.map Prod.fst).Nodup) (rest : List Statement) :
    build emptyTable [] (Section.statements ⟨.none, pairs⟩ ++ rest) =
      build (tableOf pairs) [] rest :=
  build_pairs reaches_root (by simpa using distinct) rest

/-- The empty table of a heading takes up the pairs below it. -/
theorem build_below (reaches : Reaches path around) (distinct : (pairs.map Prod.fst).Nodup)
    (rest : List Statement) :
    build (around emptyTable) path
        ((pairs.map fun (key, value) => Statement.pair [key] value.node) ++ rest) =
      build (around (tableOf pairs)) path rest :=
  build_pairs reaches (by simpa using distinct) rest

theorem build_table (fresh : key ∉ before.map Prod.fst) (distinct : (pairs.map Prod.fst).Nodup)
    (rest : List Statement) :
    build (.table .headed before) path (Section.statements ⟨.table key, pairs⟩ ++ rest) =
      build (.table .headed (before ++ [(key, tableOf pairs)])) [key] rest := by
  have headed : addHeading headTable [key] (.table .headed before) =
      some (.table .headed (before ++ [(key, emptyTable)])) := by
    simp [addHeading, change, changeEntry, Table.lookup_of_fresh fresh, headTable, put_fresh fresh]
  simp only [Section.statements, List.cons_append, List.nil_append, build, headed,
    Option.bind_eq_bind, Option.bind_some]
  exact build_below (reaches_table fresh) distinct rest

theorem build_firstTables (fresh : key ∉ before.map Prod.fst)
    (distinct : (pairs.map Prod.fst).Nodup) (rest : List Statement) :
    build (.table .headed before) path (Section.statements ⟨.tables key, pairs⟩ ++ rest) =
      build (.table .headed (before ++ [(key, .tables [tableOf pairs])])) [key] rest := by
  have headed : addHeading headTables [key] (.table .headed before) =
      some (.table .headed (before ++ [(key, .tables [emptyTable])])) := by
    simp [addHeading, change, changeEntry, Table.lookup_of_fresh fresh, headTables, put_fresh fresh]
  simp only [Section.statements, List.cons_append, List.nil_append, build, headed,
    Option.bind_eq_bind, Option.bind_some]
  exact build_below (reaches_tables fresh []) distinct rest

theorem build_moreTables (fresh : key ∉ before.map Prod.fst) (items : List Node)
    (distinct : (pairs.map Prod.fst).Nodup) (rest : List Statement) :
    build (.table .headed (before ++ [(key, .tables items)])) path
        (Section.statements ⟨.tables key, pairs⟩ ++ rest) =
      build (.table .headed (before ++ [(key, .tables (items ++ [tableOf pairs]))])) [key] rest := by
  have headed : addHeading headTables [key] (.table .headed (before ++ [(key, .tables items)])) =
      some (.table .headed (before ++ [(key, .tables (items ++ [emptyTable]))])) := by
    simp [addHeading, change, changeEntry, lookup_last fresh, headTables, put_last fresh]
  simp only [Section.statements, List.cons_append, List.nil_append, build, headed,
    Option.bind_eq_bind, Option.bind_some]
  exact build_below (reaches_tables fresh items) distinct rest

/-- The tables of one name, in order, behind those that are there. -/
theorem build_tablesBehind (fresh : key ∉ before.map Prod.fst) (items : List Node)
    {tables : List (List (String × Plain))}
    (distinct : ∀ pairs ∈ tables, (pairs.map Prod.fst).Nodup) (rest : List Statement) :
    build (.table .headed (before ++ [(key, .tables items)])) [key]
        (tables.flatMap (fun pairs => Section.statements ⟨.tables key, pairs⟩) ++ rest) =
      build (.table .headed (before ++ [(key, .tables (items ++ tables.map tableOf))])) [key]
        rest := by
  induction tables generalizing items with
  | nil => simp
  | cons pairs others ih =>
    obtain ⟨first, distinct⟩ := List.forall_mem_cons.mp distinct
    rw [List.flatMap_cons, List.append_assoc, build_moreTables fresh items first, ih _ distinct]
    simp

theorem build_tables (fresh : key ∉ before.map Prod.fst) {tables : List (List (String × Plain))}
    (some : tables ≠ []) (distinct : ∀ pairs ∈ tables, (pairs.map Prod.fst).Nodup)
    (rest : List Statement) :
    build (.table .headed before) path
        (tables.flatMap (fun pairs => Section.statements ⟨.tables key, pairs⟩) ++ rest) =
      build (.table .headed (before ++ [(key, .tables (tables.map tableOf))])) [key] rest := by
  obtain ⟨pairs, others, rfl⟩ := List.exists_cons_of_ne_nil some
  obtain ⟨first, distinct⟩ := List.forall_mem_cons.mp distinct
  rw [List.flatMap_cons, List.append_assoc, build_firstTables fresh first,
    build_tablesBehind fresh _ distinct]
  rfl

end Skinning.Toml.Node
