import BusExporter.Exporter.WellFormed
import BusExporter.Foundation.ExpositionReader

/-!
# Sample lines read back

A reader of the exposition format gets the sanitized keys and the original values of
the labels back from a sample line. Two lines are therefore different if the same
label has two values in them, as long as no two keys of a line become the same name.
-/

namespace BusExporter.Prometheus

open Foundation Metrics

/-- The text of a sample line for a metric, its unit, its labels and its value. -/
def sampleText (name unit : String) (labels : Labels) (value : Float) : String :=
  (formatMetricLine (buildMetricName name unit) labels value).text

/-- No two keys are sanitized to the same name. -/
def DistinctKeys (labels : Labels) : Prop :=
  ∀ k ∈ labels, ∀ k' ∈ labels, sanitizeName k = sanitizeName k' → k = k'

/-- Some label has two values. -/
def DifferInValue (labels labels' : Labels) : Prop :=
  ∃ k v v' : String, labels[k]? = some v ∧ labels'[k]? = some v' ∧ v ≠ v'

variable {name unit : String} {labels labels' : Labels} {value : Float}

theorem isName_sanitizedLabels (labels : Labels) :
    ∀ label ∈ sanitizedLabels labels, IsName label.1 := by
  intro label mem
  obtain ⟨original, -, rfl⟩ := List.mem_map.mp mem
  exact isName_sanitizeName original.1

theorem newline_not_mem_sampleText : '\n' ∉ (sampleText name unit labels value).toList := by
  rw [sampleText, formatMetricLine_eq_line]
  apply BodyLine.WellFormed.newline_not_mem
  refine ⟨isName_buildMetricName name unit, fun label mem => ?_, isNumber_displayFloat value⟩
  obtain ⟨original, inside, rfl⟩ := List.mem_map.mp mem
  exact ⟨isName_sanitizedLabels labels original inside, original.2, rfl⟩

theorem readSample_sampleText : readSample (sampleText name unit labels value).toList =
    some ⟨buildMetricName name unit, sanitizedLabels labels, displayFloat value⟩ := by
  rw [sampleText, formatMetricLine_eq_line]
  exact readSample_line (isName_buildMetricName name unit) (isName_sanitizedLabels labels)

theorem mem_sanitizedLabels {k v : String} (found : labels[k]? = some v) :
    (sanitizeName k, v) ∈ sanitizedLabels labels :=
  List.mem_map.mpr ⟨(k, v), Std.ExtTreeMap.mem_toList_iff_getElem?_eq_some.mpr found, rfl⟩

/-- A sanitized key has only one value. -/
theorem value_of_mem_sanitizedLabels (distinct : DistinctKeys labels) {k v v' : String}
    (found : labels[k]? = some v) (mem : (sanitizeName k, v') ∈ sanitizedLabels labels) :
    v = v' := by
  obtain ⟨⟨k', _⟩, stored, same⟩ := List.mem_map.mp mem
  obtain ⟨sameName, rfl⟩ := Prod.mk.inj same
  have found' := Std.ExtTreeMap.mem_toList_iff_getElem?_eq_some.mp stored
  have known : k ∈ labels := Std.ExtTreeMap.mem_iff_isSome_getElem?.mpr (by simp [found])
  have known' : k' ∈ labels := Std.ExtTreeMap.mem_iff_isSome_getElem?.mpr (by simp [found'])
  -- The two entries come from keys with one sanitized name, so from the same key.
  obtain rfl := distinct k' known' k known sameName
  exact Option.some_inj.mp (found.symm.trans found')

/-- **Label escaping is reversible**: a sample line is one line, its reader recovers the sanitized
keys and the original values, and lines of labels that differ in a value are different. -/
theorem labels_read_back (name unit : String) (labels : Labels) (value : Float)
    (distinct : DistinctKeys labels) :
    '\n' ∉ (sampleText name unit labels value).toList ∧
      readSample (sampleText name unit labels value).toList =
        some ⟨buildMetricName name unit, sanitizedLabels labels, displayFloat value⟩ ∧
      ∀ labels' value', DistinctKeys labels' → DifferInValue labels labels' →
        sampleText name unit labels value ≠ sampleText name unit labels' value' := by
  refine ⟨newline_not_mem_sampleText, readSample_sampleText, ?_⟩
  rintro labels' value' - ⟨k, v, v', found, found', different⟩ same
  -- Equal lines are read as equal samples, so their sanitized labels are the same.
  have read : some (Sample.mk (buildMetricName name unit) (sanitizedLabels labels)
      (displayFloat value)) = some ⟨buildMetricName name unit, sanitizedLabels labels',
        displayFloat value'⟩ := by
    rw [← readSample_sampleText, same, readSample_sampleText]
  have sameLabels : sanitizedLabels labels = sanitizedLabels labels' :=
    congrArg Sample.labels (Option.some_inj.mp read)
  apply different
  apply value_of_mem_sanitizedLabels distinct found
  rw [sameLabels]
  exact mem_sanitizedLabels found'

/-- A value with a quote, a backslash and a line break. -/
def quotedLabels : Labels := (∅ : Labels).insert "collector" "a\"\\\n,\x7d"

theorem labels_read_back_quoted :
    '\n' ∉ (sampleText "flow" "" quotedLabels 1.0).toList ∧
      readSample (sampleText "flow" "" quotedLabels 1.0).toList =
        some ⟨buildMetricName "flow" "", sanitizedLabels quotedLabels, displayFloat 1.0⟩ ∧
      ∀ labels' value', DistinctKeys labels' → DifferInValue quotedLabels labels' →
        sampleText "flow" "" quotedLabels 1.0 ≠ sampleText "flow" "" labels' value' := by
  refine labels_read_back "flow" "" quotedLabels 1.0 fun k mem k' mem' _ => ?_
  simp only [quotedLabels, Std.ExtTreeMap.mem_insert, Std.LawfulEqCmp.compare_eq_iff_eq] at mem mem'
  simp_all

end BusExporter.Prometheus
