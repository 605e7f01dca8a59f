import NetgearSwitch.Registry

/-!
# SNMP object identifiers

The column constants and the per-model vendor table of `protocols/snmp/oids.py`.
-/

namespace NetgearSwitch.Snmp

/-! ## §1 Standard MIBs -/

def sysDescr : Oid := [1, 3, 6, 1, 2, 1, 1, 1, 0]
def sysObjectId : Oid := [1, 3, 6, 1, 2, 1, 1, 2, 0]
def sysName : Oid := [1, 3, 6, 1, 2, 1, 1, 5, 0]
def ifType : Oid := [1, 3, 6, 1, 2, 1, 2, 2, 1, 3]
def ifAdminStatus : Oid := [1, 3, 6, 1, 2, 1, 2, 2, 1, 7]
def ifOperStatus : Oid := [1, 3, 6, 1, 2, 1, 2, 2, 1, 8]
def ifInErrors : Oid := [1, 3, 6, 1, 2, 1, 2, 2, 1, 14]
def ifOutErrors : Oid := [1, 3, 6, 1, 2, 1, 2, 2, 1, 20]
def ifName : Oid := [1, 3, 6, 1, 2, 1, 31, 1, 1, 1, 1]
def ifHcInOctets : Oid := [1, 3, 6, 1, 2, 1, 31, 1, 1, 1, 6]
def ifHcInUcast : Oid := [1, 3, 6, 1, 2, 1, 31, 1, 1, 1, 7]
def ifHcOutOctets : Oid := [1, 3, 6, 1, 2, 1, 31, 1, 1, 1, 10]
def ifHcOutUcast : Oid := [1, 3, 6, 1, 2, 1, 31, 1, 1, 1, 11]
def ifHighSpeed : Oid := [1, 3, 6, 1, 2, 1, 31, 1, 1, 1, 15]
def ifAlias : Oid := [1, 3, 6, 1, 2, 1, 31, 1, 1, 1, 18]
def dot3StatsDuplexStatus : Oid := [1, 3, 6, 1, 2, 1, 10, 7, 2, 1, 19]
def dot3PauseAdminMode : Oid := [1, 3, 6, 1, 2, 1, 10, 7, 10, 1, 1]
def dot3PauseOperMode : Oid := [1, 3, 6, 1, 2, 1, 10, 7, 10, 1, 2]
def dot1dBaseBridgeAddress : Oid := [1, 3, 6, 1, 2, 1, 17, 1, 1]
def dot1dBasePortIfIndex : Oid := [1, 3, 6, 1, 2, 1, 17, 1, 4, 1, 2]
def dot1qTpFdbPort : Oid := [1, 3, 6, 1, 2, 1, 17, 7, 1, 2, 2, 1, 2]
def dot1qVlanStaticName : Oid := [1, 3, 6, 1, 2, 1, 17, 7, 1, 4, 3, 1, 1]
def dot1qVlanStaticEgress : Oid := [1, 3, 6, 1, 2, 1, 17, 7, 1, 4, 3, 1, 2]
def dot1qVlanStaticUntagged : Oid := [1, 3, 6, 1, 2, 1, 17, 7, 1, 4, 3, 1, 4]
def dot1qVlanStaticRowStatus : Oid := [1, 3, 6, 1, 2, 1, 17, 7, 1, 4, 3, 1, 5]
def dot1qVlanCurrentEgress : Oid := [1, 3, 6, 1, 2, 1, 17, 7, 1, 4, 2, 1, 4]
def dot1qVlanCurrentUntagged : Oid := [1, 3, 6, 1, 2, 1, 17, 7, 1, 4, 2, 1, 5]
def dot1qVlanStatus : Oid := [1, 3, 6, 1, 2, 1, 17, 7, 1, 4, 2, 1, 6]
def dot1qPvid : Oid := [1, 3, 6, 1, 2, 1, 17, 7, 1, 4, 5, 1, 1]
def entPhysicalDescr : Oid := [1, 3, 6, 1, 2, 1, 47, 1, 1, 1, 1, 2]
def entPhysicalClass : Oid := [1, 3, 6, 1, 2, 1, 47, 1, 1, 1, 1, 5]
def entPhysicalName : Oid := [1, 3, 6, 1, 2, 1, 47, 1, 1, 1, 1, 7]
def lldpRemTable : Oid := [1, 0, 8802, 1, 1, 2, 1, 4, 1]
def pethPsePortTable : Oid := [1, 3, 6, 1, 2, 1, 105, 1, 1, 1]
def pethPsePortAdmin : Oid := pethPsePortTable ++ [3]
def pethPsePortDetect : Oid := pethPsePortTable ++ [6]
def ipAdEntAddr : Oid := [1, 3, 6, 1, 2, 1, 4, 20, 1, 1]
def ipAdEntNetmask : Oid := [1, 3, 6, 1, 2, 1, 4, 20, 1, 3]
def ipRouteDest : Oid := [1, 3, 6, 1, 2, 1, 4, 21, 1, 1]
def ipRouteNextHop : Oid := [1, 3, 6, 1, 2, 1, 4, 21, 1, 7]

def rowStatusCreateAndGo : ℤ := 4
def rowStatusDestroy : ℤ := 6

/-! ## §2 The FASTPATH vendor switchport table -/

def fastpathSwitchportMode : Oid := [1, 3, 6, 1, 4, 1, 4526, 10, 1, 2, 8, 37, 1, 2]
def fastpathSwitchportAccessVlan : Oid := [1, 3, 6, 1, 4, 1, 4526, 10, 1, 2, 8, 37, 1, 3]
def fastpathSwitchportNativeVlan : Oid := [1, 3, 6, 1, 4, 1, 4526, 10, 1, 2, 8, 37, 1, 4]
def fastpathSwitchportAllowedVlans : Oid := [1, 3, 6, 1, 4, 1, 4526, 10, 1, 2, 8, 37, 1, 6]
def fastpathSwitchportUntaggedVlans : Oid := [1, 3, 6, 1, 4, 1, 4526, 10, 1, 2, 8, 37, 1, 7]
def fastpathSwitchportTaggedVlans : Oid := [1, 3, 6, 1, 4, 1, 4526, 10, 1, 2, 8, 37, 1, 8]

def switchportModeAccess : ℤ := 1
def switchportModeTrunk : ℤ := 2
def switchportModeGeneral : ℤ := 3

/-- VLAN bitmap width of the switchport VLAN-list columns: 4096 VLANs / 8. -/
def switchportVlanBitmapBytes : ℕ := 512

/-! ## §3 The vendor subtree -/

/-- The vendor OIDs under a model's `base`. -/
structure VendorOids where
  base : Oid

namespace VendorOids

def poePowerMw (v : VendorOids) : Oid := v.base ++ [15, 1, 1, 1, 2]
def boxFan (v : VendorOids) : Oid := v.base ++ [43, 1, 6, 1, 4]
def boxPsuPower (v : VendorOids) : Oid := v.base ++ [43, 1, 8, 1, 5]
def boxTemp (v : VendorOids) : Oid := v.base ++ [43, 1, 15, 1, 3]
def dhcpModeUnverified (v : VendorOids) : Oid := v.base ++ [99, 1]
def syslogAdminMode (v : VendorOids) : Oid := v.base ++ [14, 1, 4, 1, 0]
def syslogLocalPort (v : VendorOids) : Oid := v.base ++ [14, 1, 4, 3, 0]
def syslogHostStatus (v : VendorOids) : Oid := v.base ++ [14, 1, 4, 5, 1, 7]
def mgmtWriteAddrUnverified (v : VendorOids) : Oid := v.base ++ [98, 1]
def mgmtWriteNetmaskUnverified (v : VendorOids) : Oid := v.base ++ [98, 2]
def mgmtWriteGatewayUnverified (v : VendorOids) : Oid := v.base ++ [98, 3]

end VendorOids

/-- `vendor_oids(model) if has_vendor_oids(model) else None`. -/
def vendorOids (m : SwitchModel) : Option VendorOids := m.snmpVendorBase.map VendorOids.mk

end NetgearSwitch.Snmp
