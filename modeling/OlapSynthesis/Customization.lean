import OlapSynthesis.Registry

namespace OlapSynthesis

/-- Currency conversion and currency groups for the profit and loss of one store. -/
structure CurrencyCustomization where
  store : String
deriving DecidableEq, Repr

namespace CurrencyCustomization

def name : String :=
  "currency"

/-- The dimension whose hierarchies the plugins fill. -/
def analysisDimension : Dimension :=
  ⟨"Analysis Dimension", .standard,
    [(Hierarchy.analysis "FxTargetCurrency" "FX_AH" "CustomAH" false).withProperty "description"
        "Target currency used to countervaluate pnl",
      (Hierarchy.analysis "CurrencyGroup" "CUR_GROUP_AH" "CustomAH" true).withProperty
        "description" "Handle currencies group name"],
    .ofList [("description", "Analysis Dimension associated to custom post processors")]⟩

/-- The hidden profit and loss that keeps its currency. -/
def pnlMeasure : AggregatedMeasure :=
  { AggregatedMeasure.ofField "pnl" (.plugin "SUMORSTRING") with
    folder := some "CustomPP"
    formatter := some decimalFormat
    visible := false }

def pluginMeasure (name : String) (plugin : ExternalMeasure) : DerivedMeasure :=
  { DerivedMeasure.ofCalculation name
      (.external ((plugin.withParameter "aggregationFunction" "SUMORSTRING").withUnderlying
        "pnl.SUM")) with
    folder := some "CustomPP"
    formatter := some decimalFormat }

def fxMeasure : DerivedMeasure :=
  pluginMeasure "FxMeasure" ((ExternalMeasure.ofKey "FX_PP").withParameter "leafLevels"
    "Currency@Currency@Currency,FxTargetCurrency@FxTargetCurrency@Analysis Dimension")

def groupMeasure : DerivedMeasure :=
  pluginMeasure "CGMTMMeasure" (((ExternalMeasure.ofKey "CGMTM_PP").withParameter "analysisLevels"
    ("CurrencyGroup@CurrencyGroup@Analysis Dimension," ++
      "CurrencyGroup_1@CurrencyGroup@Analysis Dimension")).withParameter "leafLevels"
    "Currency@Currency@Currency,CurrencyGroup_1@CurrencyGroup@Analysis Dimension")

def appliesTo (customization : CurrencyCustomization) (store : String) : Bool :=
  customization.store == store

def extend (cube : Cube) : Cube :=
  (cube.addDimension analysisDimension).addMeasures
    [.aggregated pnlMeasure, .derived fxMeasure, .derived groupMeasure]

end CurrencyCustomization

end OlapSynthesis
