import MarkedSheet.Proofs.Conversion.Sheets
import MarkedSheet.Proofs.Emission.Objects
import MarkedSheet.Proofs.Localization.Harvested

/-!
# Localized texts belong to the objects that are written

The harvest goes by rows, the document by groups of rows, and they agree on which object a row
belongs to: every key of an object in the key of a localized text is the name of the container that
is opened for the row of the text (`harvest_names_objects`).
-/

namespace MarkedSheet

namespace Localization

open RowGroup (keyAt)

/-- Where no template fails, the entries and the warnings of a harvest are those of its rows under
the keys of the groups; the groups are the objects of the document; and what was found before stays
in front. -/
theorem harvest_names_objects (o : Options) (name : Text) (page : Page) {primary : Nat}
    (hprimary : page.schema.primary? = some primary)
    (hfills : Fills page (keyAt (page.objectGroups primary)) o.locTemplate) :
    ∃ entries warnings,
      entries = columnwise page (rowFound? page (keyAt (page.objectGroups primary)) o.locTemplate)
      ∧ warnings = columnwise page (rowTold? page (keyAt (page.objectGroups primary)))
      ∧ harvest page o.locTemplate = ⟨entries, warnings, none⟩
      ∧ (∀ before : Logged Unit, before.result = .ok () →
        (before >>= fun _ => Sheet.harvested o name page)
          = ⟨before.printed ++ (warnings.map (warningLine name)
              ++ (if o.verbose && entries.length != 0 then
                [sheetLine name (Text.ofNat entries.length ++ " localization entries".toList)]
                else [])),
            before.entries ++ entries, .ok warnings⟩)
      ∧ (∃ ws, page.documentNodes
        = ⟨ws, .ok ((page.objectGroups primary).flatMap (page.objectForest primary))⟩)
      ∧ (∀ r < page.rows.length, ∃ g ∈ page.objectGroups primary, g.start ≤ r ∧ r < g.stop
        ∧ keyAt (page.objectGroups primary) r = g.key
        ∧ ∀ key ∈ keyAt (page.objectGroups primary) r, page.objectForest primary g
          = page.nameEntry g.start ++ [.container key (page.objectChildren primary g)])
      ∧ ∀ g ∈ page.objectGroups primary, ∃ ws,
        page.blockNodes g.start g.stop (primary + 1) page.schema.width
          = ⟨ws, .ok (page.objectChildren primary g)⟩ := by
  have hkeys : carriedKeys page.schema.primary? none page.rows
      = (List.range page.rows.length).map (keyAt (page.objectGroups primary)) := by
    rw [hprimary]
    exact RowGroup.carriedKeys_ofRange page.rows primary
  have hharvest := harvest_eq hkeys hfills
  refine ⟨_, _, rfl, rfl, hharvest, ?_, page.documentNodes_objects primary hprimary, ?_,
    fun g hg => page.blockNodes_objectChildren primary hg⟩
  · rintro ⟨printed, entries, result⟩ hbefore
    obtain rfl : result = .ok () := hbefore
    rw [Logged.bind_ok, Sheet.harvested_eq o name page hharvest]
  · intro r hr
    obtain ⟨g, hg, hstart, hstop, hkey⟩ :=
      (page.tiles_objectGroups primary).exists_group (Nat.zero_le r) hr
    refine ⟨g, hg, hstart, hstop, hkey, fun key hmem => ?_⟩
    have hown : g.key = some key := hkey.symm.trans hmem
    rw [Page.objectForest, hown]

/-- Two objects with texts and values; a text above them, and one for a value without a label. -/
def lorePage : Page where
  schema := .ofTitles (["id", "#Loc{}_Lore", "k", "#LocValues"].map fun t => some t.toList)
  rows := [["", "early", "", ""], [" a ", "old", "hp", "Health"], ["", "more", "", "lost"],
    ["b", "", "mp", "Mana"]].map (List.map fun t => some t.toList)

theorem lorePage_harvest :
    lorePage.schema.primary? = some 0
      ∧ Fills lorePage (keyAt (lorePage.objectGroups 0)) usualTemplate
      ∧ lorePage.objectGroups 0 = [⟨none, 0, 1⟩, ⟨some ['a'], 1, 3⟩, ⟨some ['b'], 3, 4⟩]
      ∧ (∃ ws, lorePage.documentNodes
        = ⟨ws, .ok ((lorePage.objectGroups 0).flatMap (lorePage.objectForest 0))⟩)
      ∧ harvest lorePage usualTemplate = ⟨[⟨"a_Lore".toList, "old".toList⟩,
          ⟨"a_Lore".toList, "more".toList⟩,
          ⟨"DOTA_Tooltip_ability_a_hp".toList, "Health".toList⟩,
          ⟨"DOTA_Tooltip_ability_b_mp".toList, "Mana".toList⟩],
        [.textWithoutKey 3 1], none⟩ := by
  have hfills := fills_defaultTemplate (rfl : usualTemplate.source = _) lorePage
    (keyAt (lorePage.objectGroups 0))
  obtain ⟨entries, warnings, hentries, hwarnings, hharvest, -, hnodes, -, -⟩ :=
    harvest_names_objects Sheet.bareOptions [] lorePage (by decide) hfills
  refine ⟨by decide, hfills, by decide, hnodes, hharvest.trans ?_⟩
  have hfound : columnwise lorePage
      (rowFound? lorePage (keyAt (lorePage.objectGroups 0)) usualTemplate)
      = [⟨"a_Lore".toList, "old".toList⟩, ⟨"a_Lore".toList, "more".toList⟩,
        ⟨"DOTA_Tooltip_ability_a_hp".toList, "Health".toList⟩,
        ⟨"DOTA_Tooltip_ability_b_mp".toList, "Mana".toList⟩] := by
    unfold rowFound? entryKey?
    simp only [format_defaultTemplate (rfl : usualTemplate.source = _)]
    decide +kernel
  have htold : columnwise lorePage (rowTold? lorePage (keyAt (lorePage.objectGroups 0)))
      = [.textWithoutKey 3 1] := by decide +kernel
  rw [hentries, hwarnings, htold]
  exact congrArg (Harvest.mk · _ _) hfound

end Localization

end MarkedSheet
