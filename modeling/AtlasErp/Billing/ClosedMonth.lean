import AtlasErp.Billing.BillingCycle
import AtlasErp.Billing.IssuedLines

/-! # The run bills the closed month

A run takes the charges that were issued before its own day, and writes them under the key of the month before.

- `CierraElMes`: no charge of a later month is invoiced, and every charge of the closed month is, in one batch;
- `Avance.emitir`, `avance_corrida`: what each batch of a run does, whatever the others did;
- `cierraElMes_iff`: a run does so exactly when its cycle was claimed before, or each of its batches with a charge of
  the month that is under way is refused. -/

namespace AtlasErp

open Lib

section Statement

variable (issuedAt : Nat → Instant) (MERCHANT_BILLING_DUE_DAYS : Int) (contexts : Nat → IssueContext) (db : CycleDb)
  (opciones : OpcionesCorrida)

/-- A charge that was not invoiced, and is afterwards. -/
def Facturado (db db' : BillingDb) (r : MerchantReceivable) : Prop :=
  r ∈ db.receivables ∧ r.invoiceId = none ∧ ∃ r' ∈ db'.receivables, r'.id = r.id ∧ r'.invoiceId ≠ none

/-- A charge in one batch of at most 500 charges of one account and one currency, which all go to one invoice. -/
def FacturadoEnUnaTanda (tandas : List Tanda) (db db' : BillingDb) (facturas : List FacturaDeCorrida)
    (r : MerchantReceivable) : Prop :=
  ∃ tanda, tandas.filter (fun t => r.id ∈ t.ids) = [tanda] ∧ tanda.ids.length ≤ MAX_LINEAS_POR_FACTURA ∧
    (∃ currency, ∀ id ∈ tanda.ids, ∃ x ∈ db.receivables, x.id = id ∧ x.accountId = tanda.accountId ∧
      x.currency = currency) ∧
    ∃ factura ∈ facturas, factura.accountId = tanda.accountId ∧ ∀ id ∈ tanda.ids,
      ∃ x ∈ db'.receivables, x.id = id ∧ x.invoiceId = some factura.invoiceId

/-- **The run bills the closed month** and nothing else. -/
structure CierraElMes : Prop where
  soloElMes : ∀ r, Facturado db.billing (ejecutar issuedAt MERCHANT_BILLING_DUE_DAYS contexts db opciones).1.billing r →
    issuedAt r.id < (ejecutar issuedAt MERCHANT_BILLING_DUE_DAYS contexts db opciones).2.cycleKey.cierre
  completo : (ejecutar issuedAt MERCHANT_BILLING_DUE_DAYS contexts db opciones).2.runId.isSome = true →
    (ejecutar issuedAt MERCHANT_BILLING_DUE_DAYS contexts db opciones).2.errors = [] →
      ∀ r ∈ db.billing.receivables, r.facturable = true →
        issuedAt r.id < (ejecutar issuedAt MERCHANT_BILLING_DUE_DAYS contexts db opciones).2.cycleKey.cierre →
          FacturadoEnUnaTanda (tandasDelCiclo (cargosDelCiclo issuedAt db.billing (hoyLocal opciones.ahora))) db.billing
            (ejecutar issuedAt MERCHANT_BILLING_DUE_DAYS contexts db opciones).1.billing
            (ejecutar issuedAt MERCHANT_BILLING_DUE_DAYS contexts db opciones).2.facturas r

/-- `issueInvoice` takes a batch, on the tables as they were before the run. -/
def Aceptada (db : BillingDb) (hoy : Day) (x : Tanda × IssueContext) : Prop :=
  ∃ result, issueInvoice db (x.1.input MERCHANT_BILLING_DUE_DAYS hoy) x.2 = .ok result

/-- The cycle was claimed before, or what is left of the month under way is refused. -/
def SinCargosDelMes : Prop :=
  (db.runs.findBy (·.cycleKey = claveDelCicloCerrado (hoyLocal opciones.ahora))).isSome = true ∨
    ∀ x ∈ tandasDeCorrida issuedAt contexts db.billing (hoyLocal opciones.ahora),
      (∃ id ∈ x.1.ids, (claveDelCicloCerrado (hoyLocal opciones.ahora)).cierre ≤ issuedAt id) →
        ¬ Aceptada MERCHANT_BILLING_DUE_DAYS db.billing (hoyLocal opciones.ahora) x

end Statement

/-! ## The batches of a run -/

section Avance

variable {MERCHANT_BILLING_DUE_DAYS : Int} {db : BillingDb} {hoy : Day} {hechas : List (Tanda × IssueContext)}
  {p : ProgresoCorrida} {y : Tanda × IssueContext}

/-- What a run has done after some of its batches. -/
structure Avance (MERCHANT_BILLING_DUE_DAYS : Int) (db : BillingDb) (hoy : Day) (hechas : List (Tanda × IssueContext))
    (p : ProgresoCorrida) : Prop where
  /-- Nothing but the charges of the batches that were taken has changed. -/
  marco : ∀ q : MerchantReceivable → Bool, (∀ x ∈ hechas, Aceptada MERCHANT_BILLING_DUE_DAYS db hoy x →
    ∀ r : MerchantReceivable, r.id ∈ x.1.ids → q r = false) → p.billing.receivables.rowsWhere q = db.receivables.rowsWhere q
  facturada : ∀ x ∈ hechas, Aceptada MERCHANT_BILLING_DUE_DAYS db hoy x → ∃ factura ∈ p.facturas,
    factura.accountId = x.1.accountId ∧ ∀ id ∈ x.1.ids, ∃ r ∈ p.billing.receivables,
      r.id = id ∧ r.invoiceId = some factura.invoiceId
  errores : p.errores = [] → ∀ x ∈ hechas, Aceptada MERCHANT_BILLING_DUE_DAYS db hoy x

/-- An issue that finds all its charges has a row for each id. -/
theorem exists_issueRow {input : IssueInvoiceDto} (hlength : (issueRows db input).length = input.receivableIds.length)
    {id : Nat} (hid : id ∈ input.receivableIds) : ∃ r ∈ issueRows db input, r.id = id := by
  have hnodup : ((issueRows db input).map (·.id)).Nodup := db.receivables.nodup.sublist (List.filter_sublist.map _)
  have hsubset : (issueRows db input).map (·.id) ⊆ input.receivableIds := by
    intro k hk
    obtain ⟨r, hr, rfl⟩ := List.mem_map.mp hk
    have hcond := of_decide_eq_true (Table.mem_rowsWhere.mp hr).2
    simpa using hcond.1
  have hperm := (List.subperm_of_subset hnodup hsubset).perm_of_length_le (by rw [List.length_map, hlength])
  obtain ⟨r, hr, rfl⟩ := List.mem_map.mp (hperm.mem_iff.mpr hid)
  exact ⟨r, hr, rfl⟩

/-- A batch that shares no charge with those before it finds its charges as they were. -/
theorem Avance.rows (h : Avance MERCHANT_BILLING_DUE_DAYS db hoy hechas p)
    (hdisjoint : ∀ x ∈ hechas, ∀ id ∈ x.1.ids, id ∉ y.1.ids) :
    issueRows p.billing (y.1.input MERCHANT_BILLING_DUE_DAYS hoy) =
      issueRows db (y.1.input MERCHANT_BILLING_DUE_DAYS hoy) := by
  refine h.marco _ fun x hx _ r hr => decide_eq_false fun hcond => ?_
  exact hdisjoint x hx r.id hr (by simpa [Tanda.input] using hcond.1)

/-- **One batch**, whatever those before it did. -/
theorem Avance.emitir (h : Avance MERCHANT_BILLING_DUE_DAYS db hoy hechas p)
    (hdisjoint : ∀ x ∈ hechas, ∀ id ∈ x.1.ids, id ∉ y.1.ids) :
    Avance MERCHANT_BILLING_DUE_DAYS db hoy (hechas ++ [y]) (emitirTanda MERCHANT_BILLING_DUE_DAYS hoy p y) := by
  have hrows := h.rows hdisjoint
  have hsame : (∃ result, issueInvoice p.billing (y.1.input MERCHANT_BILLING_DUE_DAYS hoy) y.2 = .ok result) ↔
      Aceptada MERCHANT_BILLING_DUE_DAYS db hoy y := issueInvoice_isOk_congr hrows
  cases hissue : issueInvoice p.billing (y.1.input MERCHANT_BILLING_DUE_DAYS hoy) y.2 with
  | error e =>
    have hrefused : ¬ Aceptada MERCHANT_BILLING_DUE_DAYS db hoy y := fun haccepted => by
      obtain ⟨result, hok⟩ := hsame.mpr haccepted
      cases hissue.symm.trans hok
    have hemitir : emitirTanda MERCHANT_BILLING_DUE_DAYS hoy p y =
        { p with errores := p.errores ++ [errorDeTanda y.1 e] } := by rw [emitirTanda, hissue]
    rw [hemitir]
    refine ⟨fun q hq => h.marco q fun x hx => hq x (List.mem_append_left _ hx), fun x hx haccepted => ?_,
      fun hnone => absurd hnone (by simp)⟩
    rcases List.mem_append.mp hx with hx | hx
    · exact h.facturada x hx haccepted
    · obtain rfl := List.mem_singleton.mp hx
      exact absurd haccepted hrefused
  | ok result =>
    obtain ⟨invoice, billing⟩ := result
    have haccepted : Aceptada MERCHANT_BILLING_DUE_DAYS db hoy y := hsame.mp ⟨_, hissue⟩
    have hemitir : emitirTanda MERCHANT_BILLING_DUE_DAYS hoy p y =
        { p with billing, facturas := p.facturas ++ [⟨invoice.id, invoice.invoiceNumber, y.1.accountId⟩] } := by
      rw [emitirTanda, hissue]
    rw [hemitir]
    obtain ⟨hissuable, hlength, hlocked⟩ := issueInvoice_cases hissue
    obtain ⟨heffect, -⟩ := issueLocked_effect hissuable hlocked
    have hid : ∀ r ∈ issueRows p.billing (y.1.input MERCHANT_BILLING_DUE_DAYS hoy), r.id ∈ y.1.ids := fun r hr => by
      have hcond := of_decide_eq_true (Table.mem_rowsWhere.mp hr).2
      simpa [Tanda.input] using hcond.1
    refine ⟨fun q hq => ?_, fun x hx hx' => ?_, fun hnone x hx => ?_⟩
    · have hframe := (issueLocked_frame hissuable hlocked).2 q fun r hr => by
        have hy := hq y (List.mem_append_right _ List.mem_cons_self) haccepted
        exact ⟨hy r (hid r hr), hy (r.tie invoice.id) (hid r hr)⟩
      exact hframe.trans (h.marco q fun x hx => hq x (List.mem_append_left _ hx))
    · rcases List.mem_append.mp hx with hx | hx
      · obtain ⟨factura, hfactura, haccount, htied⟩ := h.facturada x hx hx'
        refine ⟨factura, List.mem_append_left _ hfactura, haccount, fun id hmem => ?_⟩
        obtain ⟨r, hr, rfl, hinvoice⟩ := htied id hmem
        refine ⟨r, (heffect.mem_receivables r).mpr (.inr ⟨hr, fun r' hr' heq => ?_⟩), rfl, hinvoice⟩
        exact hdisjoint x hx r.id hmem (heq ▸ hid r' hr')
      · obtain rfl := List.mem_singleton.mp hx
        refine ⟨_, List.mem_append_right _ List.mem_cons_self, rfl, fun id hmem => ?_⟩
        obtain ⟨r, hr, rfl⟩ := exists_issueRow hlength hmem
        exact ⟨r.tie invoice.id, (heffect.mem_receivables _).mpr (.inl ⟨r, hr, rfl⟩), rfl, rfl⟩
    · rcases List.mem_append.mp hx with hx | hx
      · exact h.errores hnone x hx
      · obtain rfl := List.mem_singleton.mp hx
        exact haccepted

/-- **All batches of a run**, which share no charge. -/
theorem avance_corrida {tandas : List (Tanda × IssueContext)} (h : Avance MERCHANT_BILLING_DUE_DAYS db hoy hechas p)
    (hdisjoint : (hechas ++ tandas).Pairwise fun x y => ∀ id ∈ x.1.ids, id ∉ y.1.ids) :
    Avance MERCHANT_BILLING_DUE_DAYS db hoy (hechas ++ tandas)
      (tandas.foldl (emitirTanda MERCHANT_BILLING_DUE_DAYS hoy) p) := by
  induction tandas generalizing hechas p with
  | nil => simpa using h
  | cons y tandas ih =>
    have hbefore : ∀ x ∈ hechas, ∀ id ∈ x.1.ids, id ∉ y.1.ids := fun x hx =>
      (List.pairwise_append.mp hdisjoint).2.2 x hx y List.mem_cons_self
    have hnext := ih (h.emitir hbefore) (by simpa using hdisjoint)
    simpa using hnext

end Avance

/-! ## The run -/

section Run

variable {issuedAt : Nat → Instant} {MERCHANT_BILLING_DUE_DAYS : Int} {contexts : Nat → IssueContext} {db : CycleDb}
  {opciones : OpcionesCorrida} {hoy : Day}

theorem nodup_tandas :
    ((tandasDelCiclo (cargosDelCiclo issuedAt db.billing hoy)).flatMap (·.ids)).Nodup := by
  refine (tandas_perm _).nodup_iff.mpr ?_
  have hperm : (cargosDelCiclo issuedAt db.billing hoy).Perm _ := List.mergeSort_perm _ _
  exact (hperm.map (·.id)).nodup_iff.mpr (db.billing.receivables.nodup.sublist (List.filter_sublist.map _))

variable (issuedAt MERCHANT_BILLING_DUE_DAYS contexts) in
/-- What a run has done when it ends. -/
theorem avance_ejecutar (hnew : (db.runs.findBy (·.cycleKey = claveDelCicloCerrado (hoyLocal opciones.ahora))).isSome =
      false) : ∃ p, Avance MERCHANT_BILLING_DUE_DAYS db.billing (hoyLocal opciones.ahora)
        (tandasDeCorrida issuedAt contexts db.billing (hoyLocal opciones.ahora)) p ∧
      (ejecutar issuedAt MERCHANT_BILLING_DUE_DAYS contexts db opciones).1.billing = p.billing ∧
      (ejecutar issuedAt MERCHANT_BILLING_DUE_DAYS contexts db opciones).2.facturas = p.facturas ∧
      (ejecutar issuedAt MERCHANT_BILLING_DUE_DAYS contexts db opciones).2.errors = p.errores := by
  refine ⟨_, ?_, by simp only [ejecutar, hnew]; rfl, by simp only [ejecutar, hnew]; rfl,
    by simp only [ejecutar, hnew]; rfl⟩
  have hstart : Avance MERCHANT_BILLING_DUE_DAYS db.billing (hoyLocal opciones.ahora) [] ⟨db.billing, [], []⟩ :=
    ⟨fun _ _ => rfl, fun _ h => absurd h List.not_mem_nil, fun _ _ h => absurd h List.not_mem_nil⟩
  refine avance_corrida hstart ?_
  have hnodup : ((tandasDelCiclo (cargosDelCiclo issuedAt db.billing (hoyLocal opciones.ahora))).flatMap (·.ids)).Nodup :=
    nodup_tandas
  rw [← map_fst_tandasDeCorrida issuedAt contexts, List.flatMap_map, List.nodup_flatMap] at hnodup
  exact hnodup.2.imp fun hdisjoint id hid hid' => hdisjoint hid hid'

theorem cycleKey_ejecutar : (ejecutar issuedAt MERCHANT_BILLING_DUE_DAYS contexts db opciones).2.cycleKey =
    claveDelCicloCerrado (hoyLocal opciones.ahora) := by
  unfold ejecutar
  dsimp only
  split <;> rfl

/-- A cycle that was claimed before is not run. -/
theorem ejecutar_alreadyRun
    (hrun : (db.runs.findBy (·.cycleKey = claveDelCicloCerrado (hoyLocal opciones.ahora))).isSome = true) :
    ejecutar issuedAt MERCHANT_BILLING_DUE_DAYS contexts db opciones =
      (db, ⟨none, claveDelCicloCerrado (hoyLocal opciones.ahora), none, [], []⟩) := by
  simp only [ejecutar, hrun, if_true]

theorem medianoche_mono {dia dia' : Day} (h : dia ≤ dia') : medianoche dia ≤ medianoche dia' :=
  add_le_add_left (mul_le_mul_of_nonneg_right h (by decide)) _

/-- What a run invoices was in a batch that is taken. -/
theorem aceptada_of_facturado {p : ProgresoCorrida} {tandas : List (Tanda × IssueContext)}
    (h : Avance MERCHANT_BILLING_DUE_DAYS db.billing hoy tandas p) {r : MerchantReceivable}
    (hr : Facturado db.billing p.billing r) :
    ∃ x ∈ tandas, Aceptada MERCHANT_BILLING_DUE_DAYS db.billing hoy x ∧ r.id ∈ x.1.ids := by
  by_contra hnone
  obtain ⟨hmem, hfree, r', hr', hid, hinvoiced⟩ := hr
  have hrows := h.marco (·.id = r.id) fun x hx haccepted x' hx' => decide_eq_false fun heq =>
    hnone ⟨x, hx, haccepted, heq ▸ hx'⟩
  have hfound : r' ∈ db.billing.receivables.rowsWhere (·.id = r.id) := by
    rw [← hrows]
    exact Table.mem_rowsWhere.mpr ⟨hr', decide_eq_true hid⟩
  obtain rfl : r' = r := Table.eq_of_key_eq (Table.mem_rowsWhere.mp hfound).1 hmem hid
  exact hinvoiced hfree

/-- The charge of a batch was free before the run. -/
theorem facturado_of_aceptada {p : ProgresoCorrida} {x : Tanda × IssueContext}
    (hx : x ∈ tandasDeCorrida issuedAt contexts db.billing hoy)
    (h : Avance MERCHANT_BILLING_DUE_DAYS db.billing hoy (tandasDeCorrida issuedAt contexts db.billing hoy) p)
    (haccepted : Aceptada MERCHANT_BILLING_DUE_DAYS db.billing hoy x) {id : Nat} (hid : id ∈ x.1.ids) :
    ∃ r, r.id = id ∧ Facturado db.billing p.billing r := by
  have htanda : x.1 ∈ tandasDelCiclo (cargosDelCiclo issuedAt db.billing hoy) := by
    rw [← map_fst_tandasDeCorrida issuedAt contexts]
    exact List.mem_map_of_mem hx
  obtain ⟨-, _, hcargos⟩ := tanda_spec htanda
  obtain ⟨r, hr, rfl, -⟩ := hcargos id hid
  obtain ⟨hmem, hfacturable, -⟩ := (mem_cargosDelCiclo issuedAt).mp hr
  obtain ⟨factura, -, -, htied⟩ := h.facturada x hx haccepted
  obtain ⟨r', hr', hsame, hinvoice⟩ := htied r.id hid
  exact ⟨r, rfl, hmem, (of_decide_eq_true hfacturable).2.1, r', hr', hsame, by rw [hinvoice]; exact nofun⟩

/-- **Every charge of the closed month** is invoiced, in one batch, when no batch is refused. -/
theorem completo_ejecutar {p : ProgresoCorrida}
    (h : Avance MERCHANT_BILLING_DUE_DAYS db.billing hoy (tandasDeCorrida issuedAt contexts db.billing hoy) p)
    (herrores : p.errores = []) {r : MerchantReceivable} (hr : r ∈ cargosDelCiclo issuedAt db.billing hoy) :
    FacturadoEnUnaTanda (tandasDelCiclo (cargosDelCiclo issuedAt db.billing hoy)) db.billing p.billing p.facturas r := by
  have hin : r.id ∈ (tandasDelCiclo (cargosDelCiclo issuedAt db.billing hoy)).flatMap (·.ids) :=
    (tandas_perm _).mem_iff.mpr (List.mem_map_of_mem hr)
  obtain ⟨tanda, htanda⟩ := filter_eq_singleton nodup_tandas hin
  have hmem : tanda ∈ (tandasDelCiclo (cargosDelCiclo issuedAt db.billing hoy)).filter fun t => r.id ∈ t.ids := by
    rw [htanda]
    exact List.mem_singleton_self _
  have htandas := (List.mem_filter.mp hmem).1
  obtain ⟨hlength, currency, hcargos⟩ := tanda_spec htandas
  rw [← map_fst_tandasDeCorrida issuedAt contexts] at htandas
  obtain ⟨x, hx, rfl⟩ := List.mem_map.mp htandas
  obtain ⟨factura, hfactura, haccount, htied⟩ := h.facturada x hx (h.errores herrores x hx)
  refine ⟨x.1, htanda, hlength, ⟨currency, fun id hid => ?_⟩, factura, hfactura, haccount, htied⟩
  obtain ⟨c, hc, hrest⟩ := hcargos id hid
  exact ⟨c, ((mem_cargosDelCiclo issuedAt).mp hc).1, hrest⟩

/-- **When the run bills the closed month and nothing else.** -/
theorem cierraElMes_iff : CierraElMes issuedAt MERCHANT_BILLING_DUE_DAYS contexts db opciones ↔
    SinCargosDelMes issuedAt MERCHANT_BILLING_DUE_DAYS contexts db opciones := by
  cases hrun : (db.runs.findBy (·.cycleKey = claveDelCicloCerrado (hoyLocal opciones.ahora))).isSome with
  | true =>
    refine iff_of_true ⟨fun r hr => ?_, fun hclaimed => ?_⟩ (.inl hrun)
    · rw [ejecutar_alreadyRun hrun] at hr
      obtain ⟨hmem, hfree, r', hr', hid, hinvoiced⟩ := hr
      obtain rfl : r' = r := Table.eq_of_key_eq hr' hmem hid
      exact absurd hfree hinvoiced
    · rw [ejecutar_alreadyRun hrun] at hclaimed
      cases hclaimed
  | false =>
    obtain ⟨p, havance, hbilling, hfacturas, herrors⟩ :=
      avance_ejecutar issuedAt MERCHANT_BILLING_DUE_DAYS contexts hrun
    constructor
    · intro h
      refine .inr fun x hx hlate haccepted => ?_
      obtain ⟨id, hid, hlate⟩ := hlate
      obtain ⟨r, rfl, hr⟩ := facturado_of_aceptada hx havance haccepted hid
      have hmonth := h.soloElMes r (hbilling ▸ hr)
      rw [cycleKey_ejecutar] at hmonth
      exact absurd hlate (not_le.mpr hmonth)
    · intro h
      refine ⟨fun r hr => ?_, fun _ hnone r hr hfacturable hmonth => ?_⟩
      · rw [hbilling] at hr
        obtain ⟨x, hx, haccepted, hid⟩ := aceptada_of_facturado havance hr
        have hrefused := (h.resolve_left (by rw [hrun]; exact nofun)) x hx
        rw [cycleKey_ejecutar]
        by_contra hlate
        exact hrefused ⟨r.id, hid, not_lt.mp hlate⟩ haccepted
      · rw [herrors] at hnone
        rw [hbilling, hfacturas]
        refine completo_ejecutar havance hnone ((mem_cargosDelCiclo issuedAt).mpr ⟨hr, hfacturable, ?_⟩)
        rw [cycleKey_ejecutar, cierre_claveDelCicloCerrado] at hmonth
        exact lt_of_lt_of_le hmonth (medianoche_mono (firstOfMonth_le (hoyLocal opciones.ahora)))

end Run

/-! ## A run in the middle of a month -/

/-- **A charge of the month under way is invoiced** under the key of the month before: it is of 5 October, and the run
is asked for on 20 October. -/
theorem cierraElMes_counterexample : ¬ ∀ issuedAt MERCHANT_BILLING_DUE_DAYS contexts db opciones,
    CierraElMes issuedAt MERCHANT_BILLING_DUE_DAYS contexts db opciones := by
  intro h
  have hclosed := (h (fun _ => medianoche 20731) 15 (fun _ => ⟨0, "F-1", .ok ()⟩) ⟨monthlyFee, .empty⟩
    ⟨.manual, none, medianoche 20746⟩).soloElMes ⟨1, 7, none, "MONTHLY_FEE", none, none, 10000, 10000, "BOB", 0, .pending⟩
  have hbilled : Facturado monthlyFee (ejecutar (fun _ => medianoche 20731) 15 (fun _ => ⟨0, "F-1", .ok ()⟩)
      ⟨monthlyFee, .empty⟩ ⟨.manual, none, medianoche 20746⟩).1.billing
      ⟨1, 7, none, "MONTHLY_FEE", none, none, 10000, 10000, "BOB", 0, .pending⟩ := by
    refine ⟨Table.mem_rows.mp (by decide), rfl, ?_⟩
    refine ⟨⟨1, 7, some 1, "MONTHLY_FEE", none, none, 10000, 10000, "BOB", 0, .pending⟩, Table.mem_rows.mp ?_, rfl, nofun⟩
    decide +kernel
  exact absurd (hclosed hbilled) (by decide +kernel)

end AtlasErp
