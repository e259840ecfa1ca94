import InverterLink.Format
import InverterLink.Record.Layout

/-!
# What records show

The lines of the table that each kind of record is shown as, in the order of display, which is not
always the order of the payload. A line whose field the device left out is not shown, nor is a fault
that has no description.
-/

namespace InverterLink

namespace Record

/-- Where the value of a line comes from. -/
inductive Source where
  /-- The field at a position. -/
  | field (index : Nat)
  /-- The field at a position, which counts tenths. -/
  | tenths (index : Nat)
  /-- The description of the fault whose code is the field at a position. -/
  | fault (index : Nat)
  /-- The time of day whose hour and minute are the fields at two positions. -/
  | clock (hour minute : Nat)

/-- A line of the table that a record is shown as. -/
structure Line where
  key : String
  title : String
  source : Source
  measure? : Option Measure := none

/-- The lines of each kind of record. -/
def lines : RecordKind → List Line
  | .protocolId => [⟨"id", "Protocol ID", .field 0, none⟩]
  | .currentTime => [
    ⟨"year", "Year", .field 0, none⟩,
    ⟨"month", "Month", .field 1, none⟩,
    ⟨"day", "Day", .field 2, none⟩,
    ⟨"hour", "Hour", .field 3, none⟩,
    ⟨"minute", "Minute", .field 4, none⟩,
    ⟨"second", "Second", .field 5, none⟩]
  | .generated => [⟨"wh", "Wh", .field 0, none⟩]
  | .serialNumber => [⟨"sn", "Serial number", .field 0, none⟩]
  | .cpuVersion => [
    ⟨"main_v", "Main CPU version", .field 0, none⟩,
    ⟨"slave1_v", "Slave 1 CPU version", .field 1, none⟩,
    ⟨"slave2_v", "Slave 2 CPU version", .field 2, none⟩]
  | .ratedInformation => [
    ⟨"ac_input_rating_voltage", "AC input rating voltage", .tenths 0, some .volt⟩,
    ⟨"ac_input_rating_current", "AC input rating current", .tenths 1, some .ampere⟩,
    ⟨"ac_output_rating_voltage", "AC output rating voltage", .tenths 2, some .volt⟩,
    ⟨"ac_output_rating_freq", "AC output rating frequency", .tenths 3, some .hertz⟩,
    ⟨"ac_output_rating_current", "AC output rating current", .tenths 4, some .ampere⟩,
    ⟨"ac_output_rating_apparent_power",
      "AC output rating apparent power", .field 5, some .voltAmpere⟩,
    ⟨"ac_output_rating_active_power", "AC output rating active power", .field 6, some .wattHour⟩,
    ⟨"battery_rating_voltage", "Battery rating voltage", .tenths 7, some .volt⟩,
    ⟨"battery_recharge_voltage", "Battery re-charge voltage", .tenths 8, some .volt⟩,
    ⟨"battery_redischarge_voltage", "Battery re-discharge voltage", .tenths 9, some .volt⟩,
    ⟨"battery_under_voltage", "Battery under voltage", .tenths 10, some .volt⟩,
    ⟨"battery_bulk_voltage", "Battery bulk voltage", .tenths 11, some .volt⟩,
    ⟨"battery_float_voltage", "Battery float voltage", .tenths 12, some .volt⟩,
    ⟨"battery_type", "Battery type", .field 13, none⟩,
    ⟨"max_charge_current", "Max charge current", .field 15, some .ampere⟩,
    ⟨"max_ac_charge_current", "Max AC charge current", .field 14, some .ampere⟩,
    ⟨"input_voltage_range", "Input voltage range", .field 16, none⟩,
    ⟨"output_source_priority", "Output source priority", .field 17, none⟩,
    ⟨"charge_source_priority", "Charge source priority", .field 18, none⟩,
    ⟨"parallel_max_num", "Parallel max num", .field 19, none⟩,
    ⟨"machine_type", "Machine type", .field 20, none⟩,
    ⟨"topology", "Topology", .field 21, none⟩,
    ⟨"output_mode", "Output mode", .field 22, none⟩,
    ⟨"solar_power_priority", "Solar power priority", .field 23, none⟩,
    ⟨"mppt", "MPPT string", .field 24, none⟩]
  | .generalStatus => [
    ⟨"grid_voltage", "Grid voltage", .tenths 0, some .volt⟩,
    ⟨"grid_freq", "Grid frequency", .tenths 1, some .hertz⟩,
    ⟨"ac_output_voltage", "AC output voltage", .tenths 2, some .volt⟩,
    ⟨"ac_output_freq", "AC output frequency", .tenths 3, some .hertz⟩,
    ⟨"ac_output_apparent_power", "AC output apparent power", .field 4, some .voltAmpere⟩,
    ⟨"ac_output_active_power", "AC output active power", .field 5, some .wattHour⟩,
    ⟨"output_load_percent", "Output load percent", .field 6, some .percent⟩,
    ⟨"battery_voltage", "Battery voltage", .tenths 7, some .volt⟩,
    ⟨"battery_voltage_scc", "Battery voltage from SCC", .tenths 8, some .volt⟩,
    ⟨"battery_voltage_scc2", "Battery voltage from SCC2", .tenths 9, some .volt⟩,
    ⟨"battery_discharge_current", "Battery discharge current", .field 10, some .ampere⟩,
    ⟨"battery_charge_current", "Battery charge current", .field 11, some .ampere⟩,
    ⟨"battery_capacity", "Battery capacity", .field 12, some .percent⟩,
    ⟨"inverter_heat_sink_temp", "Inverter heat sink temperature", .field 13, some .celsius⟩,
    ⟨"mppt1_charger_temp", "MPPT1 charger temperature", .field 14, some .celsius⟩,
    ⟨"mppt2_charger_temp", "MPPT2 charger temperature", .field 15, some .celsius⟩,
    ⟨"pv1_input_power", "PV1 input power", .field 16, some .wattHour⟩,
    ⟨"pv2_input_power", "PV2 input power", .field 17, some .wattHour⟩,
    ⟨"pv1_input_voltage", "PV1 input voltage", .tenths 18, some .volt⟩,
    ⟨"pv2_input_voltage", "PV2 input voltage", .tenths 19, some .volt⟩,
    ⟨"configuration_status", "Configuration state", .field 20, none⟩,
    ⟨"mppt1_charger_status", "MPPT1 charger status", .field 21, none⟩,
    ⟨"mppt2_charger_status", "MPPT2 charger status", .field 22, none⟩,
    ⟨"load_connected", "Load connection", .field 23, none⟩,
    ⟨"battery_power_direction", "Battery power direction", .field 24, none⟩,
    ⟨"dc_ac_power_direction", "DC/AC power direction", .field 25, none⟩,
    ⟨"line_power_direction", "Line power direction", .field 26, none⟩,
    ⟨"local_parallel_id", "Local parallel ID", .field 27, none⟩]
  | .workingMode => [⟨"mode", "Working mode", .field 0, none⟩]
  | .faultsAndWarnings => [
    ⟨"fault_code", "Fault code", .field 0, none⟩,
    ⟨"fault_description", "Fault description", .fault 0, none⟩,
    ⟨"line_fail", "Line fail", .field 1, none⟩,
    ⟨"output_circuit_short", "Output circuit short", .field 2, none⟩,
    ⟨"inverter_over_temperature", "Inverter over temperature", .field 3, none⟩,
    ⟨"fan_lock", "Fan lock", .field 4, none⟩,
    ⟨"battery_voltage_high", "Battery voltage high", .field 5, none⟩,
    ⟨"battery_low", "Battery low", .field 6, none⟩,
    ⟨"battery_under", "Battery under", .field 7, none⟩,
    ⟨"over_load", "Over load", .field 8, none⟩,
    ⟨"eeprom_fail", "EEPROM fail", .field 9, none⟩,
    ⟨"power_limit", "Power limit", .field 10, none⟩,
    ⟨"pv1_voltage_high", "PV1 voltage high", .field 11, none⟩,
    ⟨"pv2_voltage_high", "PV2 voltage high", .field 12, none⟩,
    ⟨"mppt1_overload_warning", "MPPT1 overload warning", .field 13, none⟩,
    ⟨"mppt2_overload_warning", "MPPT2 overload warning", .field 14, none⟩,
    ⟨"battery_too_low_to_charge_for_scc1", "Battery too low to charge for SCC1", .field 15, none⟩,
    ⟨"battery_too_low_to_charge_for_scc2", "Battery too low to charge for SCC2", .field 16, none⟩]
  | .flagsAndStatuses => [
    ⟨"buzzer", "Buzzer", .field 0, none⟩,
    ⟨"overload_bypass", "Overload bypass function", .field 1, none⟩,
    ⟨"escape_to_default_screen_after_1min_timeout",
      "Escape to default screen after 1min timeout", .field 2, none⟩,
    ⟨"overload_restart", "Overload restart", .field 3, none⟩,
    ⟨"over_temp_restart", "Over temperature restart", .field 4, none⟩,
    ⟨"backlight_on", "Backlight on", .field 5, none⟩,
    ⟨"alarm_on_on_primary_source_interrupt",
      "Alarm on on primary source interrupt", .field 6, none⟩,
    ⟨"fault_code_record", "Fault code record", .field 7, none⟩]
  | .ratedDefaults => [
    ⟨"ac_output_voltage", "AC output voltage", .tenths 0, some .volt⟩,
    ⟨"ac_output_freq", "AC output frequency", .tenths 1, some .hertz⟩,
    ⟨"ac_input_voltage_range", "AC input voltage range", .field 2, none⟩,
    ⟨"battery_under_voltage", "Battery under voltage", .tenths 3, some .volt⟩,
    ⟨"battery_bulk_voltage", "Charging bulk voltage", .tenths 5, some .volt⟩,
    ⟨"battery_float_voltage", "Charging float voltage", .tenths 4, some .volt⟩,
    ⟨"battery_recharge_voltage", "Battery re-charge voltage", .tenths 6, some .volt⟩,
    ⟨"battery_redischarge_voltage", "Battery re-discharge voltage", .tenths 7, some .volt⟩,
    ⟨"max_charge_current", "Max charge current", .field 8, some .ampere⟩,
    ⟨"max_ac_charge_current", "Max AC charge current", .field 9, some .ampere⟩,
    ⟨"battery_type", "Battery type", .field 10, none⟩,
    ⟨"output_source_priority", "Output source priority", .field 11, none⟩,
    ⟨"charge_source_priority", "Charge source priority", .field 12, none⟩,
    ⟨"solar_power_priority", "Solar power priority", .field 13, none⟩,
    ⟨"machine_type", "Machine type", .field 14, none⟩,
    ⟨"output_mode", "Output mode", .field 15, none⟩,
    ⟨"buzzer_flag", "Buzzer flag", .field 16, none⟩,
    ⟨"overload_bypass_flag", "Overload bypass function flag", .field 22, none⟩,
    ⟨"escape_to_default_screen_after_1min_timeout_flag",
      "Escape to default screen after 1min timeout flag", .field 23, none⟩,
    ⟨"overload_restart_flag", "Overload restart flag", .field 17, none⟩,
    ⟨"over_temp_restart_flag", "Over temperature restart flag", .field 18, none⟩,
    ⟨"backlight_on_flag", "Backlight on flag", .field 19, none⟩,
    ⟨"alarm_on_on_primary_source_interrupt_flag",
      "Alarm on on primary source interrupt flag", .field 20, none⟩,
    ⟨"fault_code_record_flag", "Fault code record flag", .field 21, none⟩]
  | .allowedCurrents => []
  | .parallelRatedInformation => [
    ⟨"parallel_connection_status", "Parallel connection status", .field 0, none⟩,
    ⟨"serial_number", "Serial number", .field 2, none⟩,
    ⟨"charge_source_priority", "Charge source priority", .field 3, none⟩,
    ⟨"max_charge_current", "Max charge current", .field 4, some .ampere⟩,
    ⟨"max_ac_charge_current", "Max AC charge current", .field 5, some .ampere⟩,
    ⟨"output_mode", "Output mode", .field 6, none⟩]
  | .parallelGeneralStatus => [
    ⟨"parallel_connection_status", "Parallel connection status", .field 0, none⟩,
    ⟨"mode", "Working mode", .field 1, none⟩,
    ⟨"fault_code", "Fault code", .field 2, none⟩,
    ⟨"grid_voltage", "Grid voltage", .tenths 3, some .volt⟩,
    ⟨"grid_freq", "Grid frequency", .tenths 4, some .hertz⟩,
    ⟨"ac_output_voltage", "AC output voltage", .tenths 5, some .volt⟩,
    ⟨"ac_output_freq", "AC output frequency", .tenths 6, some .hertz⟩,
    ⟨"ac_output_apparent_power", "AC output apparent power", .field 7, some .voltAmpere⟩,
    ⟨"ac_output_active_power", "AC output active power", .field 8, some .wattHour⟩,
    ⟨"total_ac_output_apparent_power",
      "Total AC output apparent power", .field 9, some .voltAmpere⟩,
    ⟨"total_ac_output_active_power", "Total AC output active power", .field 10, some .wattHour⟩,
    ⟨"output_load_percent", "Output load percent", .field 11, some .percent⟩,
    ⟨"total_output_load_percent", "Total output load percent", .field 12, some .percent⟩,
    ⟨"battery_voltage", "Battery voltage", .tenths 13, some .volt⟩,
    ⟨"battery_discharge_current", "Battery discharge current", .field 14, some .ampere⟩,
    ⟨"battery_charge_current", "Battery charge current", .field 15, some .ampere⟩,
    ⟨"total_battery_charge_current", "Total battery charge current", .field 16, some .ampere⟩,
    ⟨"battery_capacity", "Battery capacity", .field 17, some .percent⟩,
    ⟨"pv1_input_power", "PV1 input power", .field 18, some .wattHour⟩,
    ⟨"pv2_input_power", "PV2 input power", .field 19, some .wattHour⟩,
    ⟨"pv1_input_voltage", "PV1 input voltage", .tenths 20, some .volt⟩,
    ⟨"pv2_input_voltage", "PV2 input voltage", .tenths 21, some .volt⟩,
    ⟨"mppt1_charger_status", "MPPT1 charger status", .field 22, none⟩,
    ⟨"mppt2_charger_status", "MPPT2 charger status", .field 23, none⟩,
    ⟨"load_connected", "Load connection", .field 24, none⟩,
    ⟨"battery_power_direction", "Battery power direction", .field 25, none⟩,
    ⟨"dc_ac_power_direction", "DC/AC power direction", .field 26, none⟩,
    ⟨"line_power_direction", "Line power direction", .field 27, none⟩,
    ⟨"max_temp", "Max. temperature", .field 28, none⟩]
  | .timeBucket => [
    ⟨"start_time", "Start time", .clock 0 1, none⟩,
    ⟨"end_time", "End time", .clock 2 3, none⟩]

/-- The value of a field. -/
def cellValue : Cell → Value
  | .number n => .unsigned n
  | .flag b => .bool b
  | .text cs => .text cs
  | .choice e ordinal => .labelled ordinal ((e.label? ordinal).getD "").toList

/-- The value that a source has in a record, if it has one. -/
def Source.value? (cells : List Cell) : Source → Option Value
  | field index => cells[index]?.map cellValue
  | tenths index =>
    match cells[index]? with
    | some (.number n) => some (.tenths n)
    | _ => none
  | fault index =>
    match cells[index]? with
    | some (.number code) => (faultDescription? code).map fun text => .text text.toList
    | _ => none
  | clock hour minute =>
    match cells[hour]?, cells[minute]? with
    | some (.number h), some (.number m) =>
      some (.text (Digits.writePadded 2 h ++ ':' :: Digits.writePadded 2 m))
    | _, _ => none

/-- The field that a line shows, if its source has a value. -/
def Line.field? (cells : List Cell) (line : Line) : Option Field :=
  (line.source.value? cells).map fun value =>
    ⟨line.key.toList, line.title.toList, value, line.measure?⟩

/-- What a record shows: a list for allowed currents, and a table for every other kind. -/
def content (r : Record) : Content :=
  match r.kind with
  | .allowedCurrents => .list (r.cells.map cellValue)
  | kind => .table ((lines kind).filterMap (Line.field? r.cells))

end Record

end InverterLink
