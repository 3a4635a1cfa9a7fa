import SignalGraph.Catalog.Definition

/-! The node kinds that are always there, in the order in which a palette lists them. -/

set_option autoImplicit false

namespace SignalGraph.BuiltIn

/-- The kind of the node that ends a strategy. -/
def signalOutput : String := "signal_output"

/-- The kind whose nodes hold a script. -/
def pineScript : String := "pinescript"

def plain (id : String) (type : ParameterType) (default : Json) : Parameter :=
  { id, type, default := some default, min := none, max := none, step := none, options := none,
    description := none }

def number (id : String) (default : Binary64) (min max : Option Binary64) : Parameter :=
  { plain id .number (.float default) with min, max }

/-- A whole-number parameter such as a period. -/
def count (id : String) (default min max : Nat) : Parameter :=
  { plain id .number (.integer default) with
    min := some (.ofNat min), max := some (.ofNat max), step := some (.ofNat 1) }

def select (id default : String) (options : List String) : Parameter :=
  { plain id .select (.string default) with options := some options }

def boolean (id : String) (default : Bool) : Parameter := plain id .boolean (.bool default)

def text (id default : String) : Parameter := plain id .text (.string default)

def described (description : String) (parameter : Parameter) : Parameter :=
  { parameter with description := some description }

def priceSources : List String := ["close", "open", "high", "low", "hl2", "hlc3", "ohlc4"]

def signalTypes : List String := ["long", "short", "both"]

def averageTypes : List String := ["ema", "sma"]

def levelMethods : List String := ["fixed", "percentage", "pip", "atr", "swing", "indicator"]

def period (default : Nat) : Parameter :=
  described "Number of candles used by the calculation" (count "period" default 1 500)

def lookback : Parameter :=
  described "Candles back from the current one (0 = current candle)" (count "lookback" 0 0 500)

def source : Parameter := select "source" "close" priceSources

def swingLookback : Parameter := count "swing_lookback" 5 1 100

def bandWidth : Parameter := number "std_dev" 2.0 (some 0.5) (some 5.0)

def previousCandle : Parameter := boolean "check_previous_candle" false

/-- A definition in a category; the handles follow from the kind. -/
def define (category : Category) (kind name : String) (description : Option String)
    (parameters : List Parameter) : Definition :=
  { kind, name, description, category, parameters, handles := .ofKind kind category }

def indicator (kind name description : String) (parameters : List Parameter) : Definition :=
  define .indicator kind name (some description) parameters

def condition (kind name : String) (parameters : List Parameter) : Definition :=
  define .condition kind name none parameters

def arithmetic (kind name description : String) : Definition :=
  define .math kind name (some description) []

def connective (kind name description : String) : Definition :=
  define .logic kind name (some description) []

def risk (kind name description : String) (parameters : List Parameter) : Definition :=
  define .risk kind name (some description) parameters

def indicators : List Definition := [
  indicator "rsi" "RSI" "Relative Strength Index" [period 14, source, lookback],
  indicator "rsi_ma" "RSI Moving Average" "Moving average of the RSI line"
    [count "rsi_period" 14 1 500, count "ma_period" 21 1 500,
      select "ma_type" "ema" averageTypes, source, lookback],
  indicator "ema" "EMA" "Exponential Moving Average" [period 21, source, lookback],
  indicator "sma" "SMA" "Simple Moving Average" [period 50, source, lookback],
  indicator "golden_cross" "Golden Cross" "Fast moving average crossing above the slow one"
    [count "fast_period" 50 1 500, count "slow_period" 200 1 1000,
      select "ma_type" "sma" averageTypes, previousCandle],
  indicator "swing_high" "Swing High" "Highest high of the recent swing" [swingLookback, lookback],
  indicator "swing_low" "Swing Low" "Lowest low of the recent swing" [swingLookback, lookback],
  indicator "price_source" "Price" "Raw candle price" [source, lookback],
  indicator "constant" "Constant" "Fixed numeric value" [number "value" 0.0 none none],
  indicator "macd" "MACD" "Moving Average Convergence Divergence"
    [count "fast_period" 12 1 200, count "slow_period" 26 1 400, count "signal_period" 9 1 200,
      select "output" "macd" ["macd", "signal", "histogram"], source, lookback],
  indicator "stochastic" "Stochastic" "Stochastic oscillator"
    [count "k_period" 14 1 200, count "d_period" 3 1 50, select "output" "k" ["k", "d"], lookback],
  indicator "cci" "CCI" "Commodity Channel Index" [period 20, lookback],
  indicator "williams_r" "Williams %R" "Williams percent range" [period 14, lookback],
  indicator "adx" "ADX" "Average Directional Index" [period 14, lookback],
  indicator "bollinger_bands" "Bollinger Bands" "Middle band of the Bollinger envelope"
    [period 20, bandWidth, source, lookback],
  indicator "bollinger_bands_upper" "Bollinger Upper" "Upper Bollinger band"
    [period 20, bandWidth, source, lookback],
  indicator "bollinger_bands_lower" "Bollinger Lower" "Lower Bollinger band"
    [period 20, bandWidth, source, lookback],
  indicator "atr" "ATR" "Average True Range" [count "atr_period" 14 1 200, lookback],
  indicator "volume_sma" "Volume SMA" "Simple moving average of volume" [period 20, lookback],
  indicator "obv" "OBV" "On-Balance Volume" [lookback],
  indicator "higher_high" "Higher High" "High above the previous swing high" [swingLookback],
  indicator "lower_low" "Lower Low" "Low below the previous swing low" [swingLookback],
  indicator "pivot_low" "Pivot Low" "Confirmed pivot low of the connected series"
    [count "lookback_left" 5 1 100, count "lookback_right" 5 1 100],
  indicator "pivot_high" "Pivot High" "Confirmed pivot high of the connected series"
    [count "lookback_left" 5 1 100, count "lookback_right" 5 1 100],
  indicator pineScript "Pine Script" "Custom indicator written in Pine Script"
    [described "Pine Script source; its indicator() title becomes the node label"
      (text "code" "//@version=5\nindicator(\"My Indicator\")\nplot(close)")],
  indicator "value_when" "Value When" "Value of b the n-th most recent time condition a was true"
    [count "occurrence" 0 0 50]]

def conditions : List Definition := [
  condition "greater_than" "A > B" [],
  condition "less_than" "A < B" [],
  condition "greater_equal" "A >= B" [],
  condition "less_equal" "A <= B" [],
  condition "equals" "A = B"
    [described "Absolute difference still treated as equal"
      (number "tolerance" 0.0 (some 0.0) none)],
  condition "not_equals" "A != B" [number "tolerance" 0.0 (some 0.0) none],
  condition "between" "B < A < C" [boolean "inclusive" false],
  condition "cross_above" "A crosses above B" [previousCandle],
  condition "cross_below" "A crosses below B" [previousCandle]]

def arithmetics : List Definition := [
  arithmetic "add" "Add" "A + B",
  arithmetic "subtract" "Subtract" "A - B",
  arithmetic "multiply" "Multiply" "A * B",
  arithmetic "divide" "Divide" "A / B",
  arithmetic "max" "Max" "Larger of A and B",
  arithmetic "min" "Min" "Smaller of A and B",
  arithmetic "abs" "Absolute" "|A|",
  arithmetic "percent_change" "Percent Change" "(A - B) / B * 100"]

def connectives : List Definition := [
  connective "and" "AND" "True when every connected condition is true",
  connective "or" "OR" "True when any connected condition is true",
  connective "not" "NOT" "Inverts the connected condition"]

/-- What the stop-loss and take-profit calculators have in common. -/
def levelParameters (default : Binary64) : List Parameter :=
  [select "signal_type" "both" signalTypes,
    described "How the price level is derived" (select "method" "percentage" levelMethods),
    number "value" default (some 0.0) none, count "atr_period" 14 1 200,
    number "atr_multiplier" 2.0 (some 0.1) (some 20.0), swingLookback,
    number "pip_size" 0.0001 (some 0.0) none]

def risks : List Definition := [
  risk "stop_loss_calculator" "Stop Loss"
    "Stop-loss level applied when the connected condition fires" (levelParameters 2.0),
  risk "take_profit_calculator" "Take Profit"
    "Take-profit level applied when the connected condition fires"
    (levelParameters 4.0 ++ [number "risk_reward_ratio" 1.5 (some 0.1) (some 20.0)]),
  risk "trailing_stop" "Trailing Stop" "Moves the stop behind price once in profit"
    [boolean "enabled" true, select "method" "percentage" ["percentage", "fixed"],
      number "trigger_profit" 0.01 (some 0.0) (some 1.0),
      number "trail_distance" 0.005 (some 0.0) (some 1.0),
      number "fixed_distance" 100.0 (some 0.0) none],
  risk "risk_free_condition" "Risk Free"
    "Moves the stop to breakeven once the profit trigger is reached"
    [boolean "enabled" true, number "profit_trigger" 0.01 (some 0.0) (some 1.0),
      number "breakeven_offset" 0.0 (some (-1.0)) (some 1.0)]]

def outputs : List Definition := [
  define .output signalOutput "Signal Output" (some "Emits the strategy's entry signal")
    [select "type" "long" signalTypes]]

def definitions : List Definition :=
  indicators ++ conditions ++ arithmetics ++ connectives ++ risks ++ outputs

/-- The category of a kind that is known by name. -/
def category? (kind : String) : Option Category :=
  (definitions.find? fun definition => definition.kind = kind).map (·.category)

end SignalGraph.BuiltIn
