import BusExporter.Foundation.FloatText

/-!
# Documents

What a serializer writes: scalars, sequences and maps. Documents that are alike have the
same keys and the same scalars in the same places, and differ in strings only.
-/

namespace BusExporter.Foundation

inductive Document where
  | bool (b : Bool)
  | nat (n : ℕ)
  | float (x : Float)
  | string (s : String)
  | seq (items : List Document)
  | map (entries : List (String × Document))

namespace Document

mutual

/-- The same document up to strings. -/
inductive Alike : Document → Document → Prop
  | bool (b : Bool) : Alike (bool b) (bool b)
  | nat (n : ℕ) : Alike (nat n) (nat n)
  | float (x : Float) : Alike (float x) (float x)
  | string (s s' : String) : Alike (string s) (string s')
  | seq {items items' : List Document} : AlikeItems items items' → Alike (seq items) (seq items')
  | map {entries entries' : List (String × Document)} :
    AlikeEntries entries entries' → Alike (map entries) (map entries')

inductive AlikeItems : List Document → List Document → Prop
  | nil : AlikeItems [] []
  | cons {item item' : Document} {items items' : List Document} :
    Alike item item' → AlikeItems items items' → AlikeItems (item :: items) (item' :: items')

inductive AlikeEntries : List (String × Document) → List (String × Document) → Prop
  | nil : AlikeEntries [] []
  | cons (key : String) {value value' : Document} {entries entries' : List (String × Document)} :
    Alike value value' → AlikeEntries entries entries' →
      AlikeEntries ((key, value) :: entries) ((key, value') :: entries')

end

mutual

/-- The last scalar is not a string. -/
def endsPlain : Document → Bool
  | bool _ | nat _ | float _ => true
  | string _ => false
  | seq items => itemsEndPlain items
  | map entries => entriesEndPlain entries

def itemsEndPlain : List Document → Bool
  | [] => true
  | [item] => item.endsPlain
  | _ :: item :: items => itemsEndPlain (item :: items)

def entriesEndPlain : List (String × Document) → Bool
  | [] => true
  | [(_, value)] => value.endsPlain
  | _ :: entry :: entries => entriesEndPlain (entry :: entries)

end

mutual

theorem Alike.refl : ∀ d : Document, Alike d d
  | .bool b => .bool b
  | .nat n => .nat n
  | .float x => .float x
  | .string s => .string s s
  | .seq items => .seq (AlikeItems.refl items)
  | .map entries => .map (AlikeEntries.refl entries)

theorem AlikeItems.refl : ∀ items : List Document, AlikeItems items items
  | [] => .nil
  | item :: items => .cons (Alike.refl item) (AlikeItems.refl items)

theorem AlikeEntries.refl : ∀ entries : List (String × Document), AlikeEntries entries entries
  | [] => .nil
  | (key, value) :: entries => .cons key (Alike.refl value) (AlikeEntries.refl entries)

end

theorem AlikeEntries.append {xs xs' ys ys' : List (String × Document)}
    (first : AlikeEntries xs xs') (second : AlikeEntries ys ys') :
    AlikeEntries (xs ++ ys) (xs' ++ ys') :=
  match first with
  | .nil => second
  | .cons key alike rest => .cons key alike (rest.append second)

/-- A map ends as its last entries do. -/
theorem entriesEndPlain_append (entries : List (String × Document))
    {last : List (String × Document)} (nonempty : last ≠ []) :
    entriesEndPlain (entries ++ last) = entriesEndPlain last := by
  induction entries with
  | nil => rfl
  | cons entry entries ih =>
    rw [List.cons_append, ← ih]
    cases rest : entries ++ last with
    | nil => exact absurd (List.append_eq_nil_iff.mp rest).2 nonempty
    | cons next rest => rfl

theorem itemsEndPlain_of_forall {items : List Document}
    (all : ∀ item ∈ items, item.endsPlain = true) : itemsEndPlain items = true := by
  induction items with
  | nil => rfl
  | cons item items ih =>
    cases items with
    | nil => exact all item (List.mem_cons_self ..)
    | cons next items => exact ih fun item mem => all item (List.mem_cons_of_mem _ mem)

end Document

end BusExporter.Foundation
