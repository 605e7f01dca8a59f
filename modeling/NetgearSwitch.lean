import NetgearSwitch.Cli.ScpCopy
import NetgearSwitch.Http.SessionParity
import NetgearSwitch.MembershipChecks
import NetgearSwitch.Nsdp.UdpClient
import NetgearSwitch.PoeRearms
import NetgearSwitch.Snmp.SwitchportPlan
import NetgearSwitch.Snmp.Transports
import NetgearSwitch.Virtual.CliSyslog
import NetgearSwitch.Virtual.DerivedRuns
import NetgearSwitch.Virtual.NsdpRuns
import NetgearSwitch.Virtual.NsdpWrites
import NetgearSwitch.Virtual.SnmpReadback
import NetgearSwitch.Virtual.ViewRuns
import NetgearSwitch.Virtual.VlanViews
import NetgearSwitch.Snmp.Agent
import NetgearSwitch.Snmp.PortListWrites
import NetgearSwitch.Virtual.NsdpHandshake
import NetgearSwitch.Virtual.NsdpMembership
import NetgearSwitch.Virtual.MibWalk
import NetgearSwitch.Virtual.WriteDispatch
import NetgearSwitch.Http.MembershipPage
import NetgearSwitch.Virtual.WebPlus
import NetgearSwitch.Virtual.WcdTexts
import NetgearSwitch.Snmp.BitmapLaws
import NetgearSwitch.Snmp.NetSnmpOutput
import NetgearSwitch.Virtual.PortToggles
import NetgearSwitch.Virtual.PvidTargets
import NetgearSwitch.Virtual.RefusedWrites
import NetgearSwitch.Http.MembershipWrites
import NetgearSwitch.Virtual.SnmpConfig
import NetgearSwitch.Virtual.NsdpReadback
import NetgearSwitch.Virtual.PlusConfig
