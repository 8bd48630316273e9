import Mathlib.Data.List.Sublists

/-!
# First-fit placement

Items arrive one by one.  Each goes to the first bin that admits it and whose
load does not clash with it; an item that finds no such bin is turned away.
Bins are tried in a fixed preference order, and the load of a bin is read
through its key.

The module proves what a run of this algorithm guarantees (no clash inside a
load, every item accounted for once, every refusal justified) and a locality
principle: the decisions inside a region that nothing outside can disturb are
those of a run that sees the region alone.
-/

namespace FirstFit

variable {Bin Key Item : Type*}

/-- Bins in preference order, with the tests that place an item on one. -/
structure Problem (Bin Key Item : Type*) where
  bins : List Bin
  key : Bin → Key
  admits : Bin → Item → Bool
  /-- Whether an item already placed (first) excludes a new one (second). -/
  clash : Item → Item → Bool

/-- What each key currently carries, oldest item first. -/
abbrev Load (Key Item : Type*) := Key → List Item

namespace Problem

variable (problem : Problem Bin Key Item)

variable (load : Load Key Item)

/-- No item on the bin clashes with the new one. -/
def isFree (bin : Bin) (item : Item) : Bool :=
  !(load (problem.key bin)).any fun placed => problem.clash placed item

/-- The first bin that admits the item and is free for it. -/
def choose (item : Item) : Option Bin :=
  problem.bins.find? fun bin => problem.admits bin item && problem.isFree load bin item

theorem isFree_iff (bin : Bin) (item : Item) : problem.isFree load bin item = true ↔
      ∀ placed ∈ load (problem.key bin), problem.clash placed item = false := by
  simp [isFree]

variable {load : Load Key Item} {item : Item}

theorem choose_some {bin : Bin} (chosen : problem.choose load item = some bin) :
    bin ∈ problem.bins ∧ problem.admits bin item = true ∧
      problem.isFree load bin item = true := by
  have accepted := List.find?_some chosen
  rw [Bool.and_eq_true] at accepted
  exact ⟨List.mem_of_find?_eq_some chosen, accepted⟩

theorem choose_none_iff (load : Load Key Item) (item : Item) : problem.choose load item = none ↔
      ∀ bin ∈ problem.bins, problem.admits bin item = true →
        ∃ placed ∈ load (problem.key bin), problem.clash placed item = true := by
  simp [choose, isFree]

theorem choose_isSome_iff (load : Load Key Item) (item : Item) :
    (problem.choose load item).isSome = true ↔
      ∃ bin ∈ problem.bins, problem.admits bin item = true ∧
        problem.isFree load bin item = true := by
  simp [choose]

/-- Two loads that offer the same free bins give the same choice. -/
theorem choose_congr {left right : Load Key Item}
    (same : ∀ bin ∈ problem.bins, problem.admits bin item = true →
      problem.isFree left bin item = problem.isFree right bin item) :
    problem.choose left item = problem.choose right item := by
  rw [choose, choose, ← List.head?_filter, ← List.head?_filter]
  congr 1
  apply List.filter_congr
  intro bin member
  cases admitted : problem.admits bin item with
  | false => simp
  | true => simp [same bin member admitted]

/-- `other` can keep `item` off a bin: the two clash, and `other` is loaded on the
bin's key, or arrives earlier and may be given to it. -/
def HindersOn (load : Load Key Item) (items : List Item) (bin : Bin) (other item : Item) : Prop :=
  problem.clash other item = true ∧
    (other ∈ load (problem.key bin) ∨
      [other, item].Sublist items ∧
        ∃ rival ∈ problem.bins, problem.key rival = problem.key bin ∧
          problem.admits rival other = true)

/-- `other` can keep the arriving `item` off one of the bins that admit it. -/
def Hinders (load : Load Key Item) (items : List Item) (other item : Item) : Prop :=
  item ∈ items ∧ ∃ bin ∈ problem.bins, problem.admits bin item = true ∧
    problem.HindersOn load items bin other item

/-- `other` reaches `item` through a chain of items each hindering the next. -/
def Influences (load : Load Key Item) (items : List Item) : Item → Item → Prop :=
  Relation.TransGen (problem.Hinders load items)

/-- A bin admits the item and nothing can keep the item off it. -/
def Spare (load : Load Key Item) (items : List Item) (item : Item) : Prop :=
  ∃ bin ∈ problem.bins, problem.admits bin item = true ∧
    ∀ other, ¬ problem.HindersOn load items bin other item

/-- Whatever hinders a region item is in the region. -/
def Closed (region : Item → Prop) (load : Load Key Item) (items : List Item) : Prop :=
  ∀ other item, problem.Hinders load items other item → region item → region other

theorem HindersOn.mono {load smaller : Load Key Item} {items fewer : List Item} {bin : Bin}
    {other item : Item} (hinders : problem.HindersOn smaller fewer bin other item)
    (lessLoad : ∀ key, ∀ item ∈ smaller key, item ∈ load key)
    (lessItems : fewer.Sublist items) : problem.HindersOn load items bin other item := by
  obtain ⟨clash, loaded | ⟨earlier, rival⟩⟩ := hinders
  · exact ⟨clash, .inl (lessLoad _ _ loaded)⟩
  · exact ⟨clash, .inr ⟨earlier.trans lessItems, rival⟩⟩

theorem Hinders.mono {load smaller : Load Key Item} {items fewer : List Item}
    {other item : Item} (hinders : problem.Hinders smaller fewer other item)
    (lessLoad : ∀ key, ∀ item ∈ smaller key, item ∈ load key)
    (lessItems : fewer.Sublist items) : problem.Hinders load items other item := by
  obtain ⟨member, bin, isBin, admitted, hindersOn⟩ := hinders
  exact ⟨lessItems.subset member, bin, isBin, admitted, hindersOn.mono problem lessLoad lessItems⟩

variable {items : List Item}

theorem Influences.mem {other item : Item} (influences : problem.Influences load items other item) :
    item ∈ items := by
  cases influences with
  | single hinders => exact hinders.1
  | tail _ hinders => exact hinders.1

theorem Closed.sublist {region : Item → Prop} {load smaller : Load Key Item}
    {items fewer : List Item} (closed : problem.Closed region load items)
    (lessLoad : ∀ key, ∀ item ∈ smaller key, item ∈ load key)
    (lessItems : fewer.Sublist items) : problem.Closed region smaller fewer := by
  intro other item hinders
  exact closed other item (hinders.mono problem lessLoad lessItems)

variable [DecidableEq Key]

def put (load : Load Key Item) (item : Item) : Option Bin → Load Key Item
  | none => load
  | some bin =>
    Function.update load (problem.key bin) (load (problem.key bin) ++ [item])

/-- The decision taken for each item, in arrival order. -/
def decisions (load : Load Key Item) : List Item → List (Item × Option Bin)
  | [] => []
  | item :: rest =>
    let bin := problem.choose load item
    (item, bin) :: decisions (problem.put load item bin) rest

/-- The load once every item has been considered. -/
def loadAfter (load : Load Key Item) : List Item → Load Key Item
  | [] => load
  | item :: rest =>
    loadAfter (problem.put load item (problem.choose load item)) rest

/-- The items a list of decisions put on one key. -/
def placedOn (key : Key) (taken : List (Item × Option Bin)) : List Item :=
  taken.filterMap fun decision =>
    if decision.2.map problem.key = some key then some decision.1 else none

def turnedAway (taken : List (Item × Option Bin)) : List Item :=
  taken.filterMap fun decision => if decision.2.isNone then some decision.1 else none

theorem mem_put {item other : Item} {choice : Option Bin} {key : Key}
    (member : other ∈ problem.put load item choice key) :
    other ∈ load key ∨ other = item ∧ ∃ bin, choice = some bin ∧ problem.key bin = key := by
  cases choice with
  | none => exact .inl member
  | some bin =>
    by_cases here : key = problem.key bin
    · subst here
      simp only [put, Function.update_self, List.mem_append, List.mem_singleton] at member
      exact member.imp_right fun same => ⟨same, bin, rfl, rfl⟩
    · simp only [put, Function.update_of_ne here] at member
      exact .inl member

@[simp] theorem decisions_items (load : Load Key Item) (items : List Item) :
    (problem.decisions load items).map Prod.fst = items := by
  induction items generalizing load with
  | nil => rfl
  | cons item rest ih => simp [decisions, ih]

theorem decisions_append (load : Load Key Item) (front back : List Item) :
    problem.decisions load (front ++ back) = problem.decisions load front ++
        problem.decisions (problem.loadAfter load front) back := by
  induction front generalizing load with
  | nil => rfl
  | cons item rest ih => simp [decisions, loadAfter, ih]

/-- The final load is the initial one followed by what the run placed. -/
theorem loadAfter_apply (load : Load Key Item) (items : List Item) (key : Key) :
    problem.loadAfter load items key =
      load key ++ problem.placedOn key (problem.decisions load items) := by
  induction items generalizing load with
  | nil => simp [loadAfter, decisions, placedOn]
  | cons item rest ih =>
    simp only [loadAfter, decisions, ih]
    cases problem.choose load item with
    | none => simp [placedOn, put]
    | some bin =>
      by_cases here : problem.key bin = key
      · subst here
        simp [placedOn, put]
      · simp [placedOn, put, here, Function.update_of_ne (Ne.symm here)]

/-- The decision at one position is the choice made on the load the earlier
decisions left. -/
theorem decision_eq_choose {before after : List (Item × Option Bin)} {bin : Option Bin}
    (split : problem.decisions load items = before ++ (item, bin) :: after) :
    bin = problem.choose (fun key => load key ++ problem.placedOn key before) item := by
  induction before generalizing load items with
  | nil =>
    cases items with
    | nil => simp [decisions] at split
    | cons first rest =>
      obtain ⟨⟨rfl, rfl⟩, -⟩ := split
      simp [placedOn]
  | cons decision before ih =>
    cases items with
    | nil => simp [decisions] at split
    | cons first rest =>
      simp only [decisions, List.cons_append, List.cons.injEq] at split
      obtain ⟨rfl, split⟩ := split
      rw [ih split]
      congr 1
      funext key
      have firstStep := problem.loadAfter_apply load [first] key
      simp only [loadAfter, decisions] at firstStep
      rw [firstStep, List.append_assoc]
      simp [placedOn, List.filterMap_cons]
      split <;> simp

theorem placed_admits {bin : Bin} (taken : (item, some bin) ∈ problem.decisions load items) :
    bin ∈ problem.bins ∧ problem.admits bin item = true := by
  obtain ⟨before, after, split⟩ := List.append_of_mem taken
  obtain ⟨isBin, admitted, -⟩ := problem.choose_some (problem.decision_eq_choose split).symm
  exact ⟨isBin, admitted⟩

theorem mem_turnedAway {taken : List (Item × Option Bin)} :
    item ∈ turnedAway taken ↔ (item, none) ∈ taken := by
  simp only [turnedAway, List.mem_filterMap]
  constructor
  · rintro ⟨⟨placed, choice⟩, member, isAway⟩
    cases choice with
    | none => cases isAway; exact member
    | some bin => cases isAway
  · intro member
    exact ⟨_, member, rfl⟩

theorem mem_placedOn {key : Key} {taken : List (Item × Option Bin)} :
    item ∈ problem.placedOn key taken ↔
      ∃ bin, (item, some bin) ∈ taken ∧ problem.key bin = key := by
  simp only [placedOn, List.mem_filterMap]
  constructor
  · rintro ⟨⟨placed, choice⟩, member, isPlaced⟩
    cases choice with
    | none => cases isPlaced
    | some bin =>
      by_cases here : problem.key bin = key
      · simp only [Option.map_some, here, if_true, Option.some.injEq] at isPlaced
        exact ⟨bin, isPlaced ▸ member, here⟩
      · simp [here] at isPlaced
  · rintro ⟨bin, member, here⟩
    exact ⟨_, member, by simp [here]⟩

/-- What a key carries at the end was loaded on it, or arrived and is admitted by
one of its bins. -/
theorem mem_loadAfter {key : Key} (member : item ∈ problem.loadAfter load items key) :
    item ∈ load key ∨ item ∈ items ∧ ∃ bin ∈ problem.bins, problem.key bin = key ∧
        problem.admits bin item = true := by
  rw [loadAfter_apply, List.mem_append] at member
  refine member.imp_right fun placed => ?_
  obtain ⟨bin, taken, sameKey⟩ := problem.mem_placedOn.1 placed
  obtain ⟨isBin, admitted⟩ := problem.placed_admits taken
  have arrived : item ∈ (problem.decisions load items).map Prod.fst :=
    List.mem_map_of_mem taken
  rw [decisions_items] at arrived
  exact ⟨arrived, bin, isBin, sameKey, admitted⟩

theorem loadAfter_pairwise (load : Load Key Item) (items : List Item)
    (clean : ∀ key, (load key).Pairwise fun first second =>
      problem.clash first second = false) (key : Key) :
    (problem.loadAfter load items key).Pairwise fun first second =>
      problem.clash first second = false := by
  induction items generalizing load with
  | nil => exact clean key
  | cons item rest ih =>
    apply ih
    intro key
    cases chosen : problem.choose load item with
    | none => exact clean key
    | some bin =>
      by_cases here : key = problem.key bin
      · subst here
        have free := (problem.isFree_iff load bin item).1 (problem.choose_some chosen).2.2
        simp only [put, Function.update_self]
        rw [List.pairwise_append]
        refine ⟨clean _, List.pairwise_singleton _ _, ?_⟩
        intro placed member new newMember
        rw [List.mem_singleton] at newMember
        subst newMember
        exact free placed member
      · simpa only [put, Function.update_of_ne here] using clean key

theorem turnedAway_append (left right : List (Item × Option Bin)) :
    turnedAway (left ++ right) = turnedAway left ++ turnedAway right := by
  simp [turnedAway]

/-- The part of a load that lies in a region. -/
def restrict (region : Item → Prop) [DecidablePred region] (load : Load Key Item) : Load Key Item :=
  fun key => (load key).filter fun item => decide (region item)

section

variable (region : Item → Prop) [DecidablePred region]

variable {item : Item}

theorem restrict_put_inside (load : Load Key Item) (inside : region item) (bin : Option Bin) :
    restrict region (problem.put load item bin) = problem.put (restrict region load) item bin := by
  funext key
  cases bin with
  | none => rfl
  | some bin =>
    by_cases here : key = problem.key bin
    · subst here
      simp [restrict, put, inside]
    · simp [restrict, put, Function.update_of_ne here]

theorem restrict_put_outside (load : Load Key Item) (outside : ¬ region item) (bin : Option Bin) :
    restrict region (problem.put load item bin) = restrict region load := by
  funext key
  cases bin with
  | none => rfl
  | some bin =>
    by_cases here : key = problem.key bin
    · subst here
      simp [restrict, put, outside]
    · simp [restrict, put, Function.update_of_ne here]

omit [DecidableEq Key] in
theorem isFree_restrict {load : Load Key Item} {bin : Bin}
    (closed : ∀ other ∈ load (problem.key bin), problem.clash other item = true → region other) :
    problem.isFree (restrict region load) bin item = problem.isFree load bin item := by
  rw [Bool.eq_iff_iff, isFree_iff, isFree_iff]
  constructor
  · intro free placed member
    cases clash : problem.clash placed item with
    | false => rfl
    | true =>
      have restricted : placed ∈ restrict region load (problem.key bin) := by
        simp [restrict, member, closed placed member clash]
      rw [free placed restricted] at clash
      contradiction
  · intro free placed member
    exact free placed (List.mem_of_mem_filter member)

/-- Once the first item is placed, the rest of a closed run is closed: an item that
was just placed hinders only those it hindered as an earlier arrival. -/
theorem Closed.tail {region : Item → Prop} {load : Load Key Item} {rest : List Item}
    (closed : problem.Closed region load (item :: rest)) :
    problem.Closed region (problem.put load item (problem.choose load item)) rest := by
  intro other later ⟨member, bin, isBin, admitted, clash, before⟩
  apply closed other later
  refine ⟨List.mem_cons_of_mem _ member, bin, isBin, admitted, clash, ?_⟩
  rcases before with loaded | ⟨earlier, rival⟩
  · rcases problem.mem_put loaded with old | ⟨rfl, chosen, choice, sameKey⟩
    · exact .inl old
    · obtain ⟨isChosen, fits, -⟩ := problem.choose_some choice
      exact .inr ⟨(List.singleton_sublist.2 member).cons_cons _, chosen, isChosen, sameKey, fits⟩
  · exact .inr ⟨earlier.cons _, rival⟩

theorem decisions_restrict (load : Load Key Item) (items : List Item)
    (closed : problem.Closed region load items) :
    problem.decisions (restrict region load) (items.filter fun item => decide (region item)) =
      (problem.decisions load items).filter fun decision => decide (region decision.1) := by
  induction items generalizing load with
  | nil => rfl
  | cons item rest ih =>
    have restClosed := closed.tail
    by_cases inside : region item
    · have sameChoice : problem.choose (restrict region load) item = problem.choose load item := by
        apply problem.choose_congr
        intro bin isBin admitted
        apply problem.isFree_restrict
        intro other member clash
        exact closed other item
          ⟨List.mem_cons_self, bin, isBin, admitted, clash, .inl member⟩ inside
      simp only [List.filter_cons, inside, decide_true, if_true, decisions, sameChoice]
      rw [← problem.restrict_put_inside region load inside, ih _ restClosed]
    · simp only [List.filter_cons, inside, decide_false, Bool.false_eq_true, if_false, decisions]
      rw [← ih _ restClosed, problem.restrict_put_outside region load inside]

theorem placedOn_filter (key : Key) (taken : List (Item × Option Bin)) :
    problem.placedOn key (taken.filter fun decision => decide (region decision.1)) =
      (problem.placedOn key taken).filter fun item => decide (region item) := by
  induction taken with
  | nil => rfl
  | cons decision rest ih =>
    by_cases inside : region decision.1 <;>
      by_cases here : decision.2.map problem.key = some key <;> simp_all [placedOn]

theorem turnedAway_filter (taken : List (Item × Option Bin)) :
    turnedAway (taken.filter fun decision => decide (region decision.1)) =
      (turnedAway taken).filter fun item => decide (region item) := by
  induction taken with
  | nil => rfl
  | cons decision rest ih =>
    by_cases inside : region decision.1 <;> cases bin : decision.2 <;> simp_all [turnedAway]

section

variable {left right : Load Key Item} {leftItems rightItems : List Item}
variable (leftClosed : problem.Closed region left leftItems)
variable (rightClosed : problem.Closed region right rightItems)
variable (sameLoad : restrict region left = restrict region right)
variable (sameItems : (leftItems.filter fun item => decide (region item)) = rightItems.filter fun item => decide (region item))
include leftClosed rightClosed sameLoad sameItems

theorem turnedAway_region_congr :
    ((turnedAway (problem.decisions left leftItems)).filter fun item => decide (region item)) =
      (turnedAway (problem.decisions right rightItems)).filter
        fun item => decide (region item) := by
  rw [← turnedAway_filter, ← turnedAway_filter, ← problem.decisions_restrict region _ _ leftClosed,
    ← problem.decisions_restrict region _ _ rightClosed, sameLoad, sameItems]

/-- Two closed runs that agree on the region leave the same region load. -/
theorem loadAfter_region_congr : restrict region (problem.loadAfter left leftItems) =
      restrict region (problem.loadAfter right rightItems) := by
  funext key
  have loads := congrFun sameLoad key
  simp only [restrict] at loads
  simp only [restrict, loadAfter_apply, List.filter_append, ← placedOn_filter, loads,
    ← problem.decisions_restrict region _ _ leftClosed,
    ← problem.decisions_restrict region _ _ rightClosed, sameLoad, sameItems]

end

end

theorem not_turnedAway_of_spare (spare : problem.Spare load items item) :
    item ∉ turnedAway (problem.decisions load items) := by
  intro away
  obtain ⟨before, after, split⟩ := List.append_of_mem (mem_turnedAway.1 away)
  obtain ⟨bin, isBin, admitted, clear⟩ := spare
  have refused := (problem.choose_none_iff _ item).1 (problem.decision_eq_choose split).symm
  obtain ⟨placed, member, clash⟩ := refused bin isBin admitted
  refine clear placed ⟨clash, (List.mem_append.1 member).imp_right fun placedBefore => ?_⟩
  obtain ⟨rival, taken, sameKey⟩ := problem.mem_placedOn.1 placedBefore
  obtain ⟨isRival, fits⟩ : rival ∈ problem.bins ∧ problem.admits rival placed = true :=
    problem.placed_admits (split ▸ List.mem_append_left _ taken)
  have order : before.map Prod.fst ++ item :: after.map Prod.fst = items := by
    rw [← problem.decisions_items load items, split, List.map_append, List.map_cons]
  refine ⟨?_, rival, isRival, sameKey, fits⟩
  have listed : placed ∈ before.map Prod.fst := List.mem_map_of_mem taken
  rw [← order]
  exact (List.singleton_sublist.2 listed).append (List.singleton_sublist.2 List.mem_cons_self)

theorem turnedAway_of_extra {load extended : Load Key Item} {extra : Item}
    (sameRest : ∀ key, ∀ region : Item → Bool, region extra = false →
      (extended key).filter region = (load key).filter region)
    (lessLoad : ∀ key, ∀ other ∈ load key, other ∈ extended key) (notExtra : item ≠ extra)
    (away : item ∈ turnedAway (problem.decisions extended items)) :
    item ∈ turnedAway (problem.decisions load items) ∨
      problem.Influences extended items extra item := by
  classical
  by_cases influenced : problem.Influences extended items extra item
  · exact .inr influenced
  left
  let region : Item → Prop := fun item =>
    ¬ problem.Influences extended items extra item ∧ item ≠ extra
  have extendedClosed : problem.Closed region extended items := by
    intro other item hinders inside
    constructor
    · exact fun influence => inside.1 (influence.tail hinders)
    · rintro rfl
      exact inside.1 (.single hinders)
  have loadClosed : problem.Closed region load items :=
    extendedClosed.sublist problem lessLoad (List.Sublist.refl items)
  have sameLoad : restrict region extended = restrict region load := by
    funext key
    exact sameRest key _ (by simp [region])
  have sameAway := problem.turnedAway_region_congr region extendedClosed loadClosed sameLoad rfl
  have kept : item ∈ (turnedAway (problem.decisions extended items)).filter
      fun item => decide (region item) := by
    simp [away, region, influenced, notExtra]
  rw [sameAway] at kept
  exact List.mem_of_mem_filter kept

/-- A partial run that keeps the target, last, and everything that influences it
takes the same decision for the target. -/
theorem choose_of_influences {load part : Load Key Item} {items fewer : List Item} {target : Item}
    (lessLoad : ∀ key, ∀ item ∈ part key, item ∈ load key) (lessItems : fewer.Sublist items)
    (keepsLoad : ∀ key, ∀ region : Item → Bool,
      (∀ item, region item = true → problem.Influences load (items ++ [target]) item target) →
      (part key).filter region = (load key).filter region)
    (keepsItems : ∀ region : Item → Bool,
      (∀ item, region item = true → problem.Influences load (items ++ [target]) item target) →
      fewer.filter region = items.filter region) :
    problem.choose (problem.loadAfter part fewer) target =
      problem.choose (problem.loadAfter load items) target := by
  classical
  let region : Item → Prop := fun item =>
    problem.Influences load (items ++ [target]) item target
  have closed : problem.Closed region load items := by
    intro other item hinders inside
    exact .head (hinders.mono problem (fun _ _ member => member)
      (List.sublist_append_left ..)) inside
  have partClosed : problem.Closed region part fewer := closed.sublist problem lessLoad lessItems
  have sameLoad : restrict region part = restrict region load := by
    funext key
    exact keepsLoad key _ fun _ => of_decide_eq_true
  have sameAfter := problem.loadAfter_region_congr region partClosed closed sameLoad
    (keepsItems _ fun _ => of_decide_eq_true)
  apply problem.choose_congr
  intro bin isBin admitted
  have reaches : ∀ other ∈ problem.loadAfter load items (problem.key bin),
      problem.clash other target = true → region other := by
    intro other member clash
    refine .single ⟨List.mem_concat_self, bin, isBin, admitted, clash,
      (problem.mem_loadAfter member).imp_right ?_⟩
    rintro ⟨arrived, rival⟩
    exact ⟨(List.singleton_sublist.2 arrived).append (List.Sublist.refl [target]), rival⟩
  have reachesPart : ∀ other ∈ problem.loadAfter part fewer (problem.key bin),
      problem.clash other target = true → region other := by
    intro other member clash
    refine .single ⟨List.mem_concat_self, bin, isBin, admitted, clash,
      (problem.mem_loadAfter member).imp (lessLoad _ _) ?_⟩
    rintro ⟨arrived, rival⟩
    exact ⟨(List.singleton_sublist.2 (lessItems.subset arrived)).append
      (List.Sublist.refl [target]), rival⟩
  rw [← problem.isFree_restrict region reachesPart, sameAfter,
    problem.isFree_restrict region reaches]

end Problem

end FirstFit
